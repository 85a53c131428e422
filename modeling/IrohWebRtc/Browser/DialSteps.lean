import IrohWebRtc.Browser.DialMoves

/-!
# What a step of the browser runtime does

The moves of the runtime, read field by field: how a call, its tasks and its entry go on over a
step, and what is then so in every run.

* `step_call`, `step_setup`, `step_loop`, `step_body`, `step_lookup`, `step_returns`: the calls,
  the tasks of a call, its body, its pending entry, and the record of what was returned.
* `Registered.step`: the calls that wait stay the ones that are registered as pending.
* `WellFormed`: what holds in every run.
* `FreshDial`: no dial gets the id of another session, so that every call has a session of its
  own.

A call only ever moves on.  Its phases are ordered, and a step leaves a call where it is or takes
it to a later phase; so do the setup and the loop of a call.  This is why the lemmas are stated
for one call before and after a step, and why most of what the later modules need of a run is that
a phase which was left does not come back.

That every dial gets a new id is an assumption on runs, not on the node: ids are hashes, and the
node would overwrite a session whose id is generated again.
-/

namespace IrohWebRtc

namespace BrowserRuntime

variable {E : Type*} [DecidableEq E] [EndpointKey E] [Blake3] {rt rt' : BrowserRuntime E}

/-! ## The calls and their tasks -/

/-- The event starts a call: its session is allocated under a key of its own. -/
structure Starts (rt : BrowserRuntime E) (ev : RuntimeEvent E) (rt' : BrowserRuntime E) (i : ℕ)
    (call : DialCall E) : Prop where
  index : i = rt.nextCall
  request : ev.request = some call.toDialRequest
  nodeOpen : rt.node.closed = false
  key : ∃ session dialIds, rt.node.dialIds.next call.remote = some (session, dialIds) ∧
    call.sessionKey = .ofDialId session.dialId
  session : ∃ dialId generation, rt'.node.session call.sessionKey =
    some (.new call.sessionKey dialId generation rt.node.endpointId call.remote call.alpn .dialer
      call.transportIntent)
  phase : rt'.bodies i = .dialingRelay ∧ rt'.relayDialed i = true ∨
    rt'.bodies i = .connecting ∨ rt'.bodies i = .bindingEndpoint
  undecided : rt'.decisions i = none

/-- No event but the start of a call touches the table of calls. -/
theorem step_calls {ev : RuntimeEvent E} (h : rt.Move ev rt') :
    rt'.calls = rt.calls ∨ ∃ call, rt.Starts ev rt' rt.nextCall call ∧
      rt'.calls = Function.update rt.calls rt.nextCall (some call) := by
  cases h with
  | @started ev request key node phase relayDialed hev hclosed hnode hkey hsession hphase =>
    refine Or.inr ⟨⟨request, key⟩, ?_, rfl⟩
    have hbody : ({ rt with node := node }.start ⟨request, key⟩ phase relayDialed).bodies
        rt.nextCall = phase := Function.update_self ..
    have hrelay : ({ rt with node := node }.start ⟨request, key⟩ phase relayDialed).relayDialed
        rt.nextCall = relayDialed := Function.update_self ..
    refine ⟨rfl, hev, hclosed, hkey, hsession, ?_, Function.update_self ..⟩
    rw [hbody, hrelay]
    exact hphase.imp_right And.left
  | registered hcall hbody => exact Or.inl (dropSender_sameTasks ..).calls
  | setupFailed hcall hfails => exact Or.inl (applyRtcLifecycleResult_sameTasks ..).calls
  | received hloop hclosed hnode hsession => exact Or.inl (completeFromSession_sameTasks ..).calls
  | @applied loop signal result hloop =>
    refine Or.inl ((completeFromSession_sameTasks ..).calls.trans ?_)
    cases signal <;> rfl
  | channelEvent => exact Or.inl (applyRtcLifecycleResult_sameTasks ..).calls
  | resumed hcall hbody => exact Or.inl (dropSender_sameTasks ..).calls
  | _ => exact Or.inl rfl

/-- A call keeps what it was started with. -/
theorem call_of_step (hreg : rt.Registered) {ev : RuntimeEvent E} (h : rt.Move ev rt') {i : ℕ}
    {call : DialCall E} (hcall : rt.calls i = some call) : rt'.calls i = some call := by
  rcases step_calls h with heq | ⟨started, -, heq⟩
  · rw [heq]
    exact hcall
  · rw [heq, Function.update_of_ne]
    · exact hcall
    · rintro rfl
      rw [hreg.fresh _ le_rfl] at hcall
      exact absurd hcall (by simp)

theorem step_call {ev : RuntimeEvent E} (h : rt.Move ev rt') {i : ℕ} {call : DialCall E}
    (hcall : rt'.calls i = some call) : rt.calls i = some call ∨ rt.Starts ev rt' i call := by
  rcases step_calls h with heq | ⟨started, hstarts, heq⟩
  · rw [heq] at hcall
    exact Or.inl hcall
  · rw [heq, Function.update_apply] at hcall
    split_ifs at hcall with hi
    · obtain rfl := Option.some.inj hcall
      exact Or.inr (hi ▸ hstarts)
    · exact Or.inl hcall

/-- How the setup of a call goes on. -/
inductive SetupMove (rt : BrowserRuntime E) (ev : RuntimeEvent E) (rt' : BrowserRuntime E) (i : ℕ) :
    Prop where
  | spawned {call : DialCall E} (hcall : rt.calls i = some call)
      (hev : ev = .bootstrapStep i true) (hbody : rt.bodies i = .sendingRequest)
      (hbody' : rt'.bodies i = .waiting) (h : rt'.setups i = .spawned) : SetupMove rt ev rt' i
  | started (h : rt.setups i = .spawned) (h' : rt'.setups i = .creatingOffer) :
      SetupMove rt ev rt' i
  | offered (h : rt.setups i = .creatingOffer) (h' : rt'.setups i = .drainingIce) :
      SetupMove rt ev rt' i
  | drained (hev : ev = .localIce i (.ok true)) (h : rt.setups i = .drainingIce)
      (h' : rt'.setups i = .finished) : SetupMove rt ev rt' i
  | failed {call : DialCall E} {message : String} (hcall : rt.calls i = some call)
      (hfails : rt.FailsSetup i call ev) (h' : rt' = rt.setupFails i call message) :
      SetupMove rt ev rt' i

theorem step_setup {ev : RuntimeEvent E} (h : rt.Move ev rt') (i : ℕ) :
    rt'.setups i = rt.setups i ∨ SetupMove rt ev rt' i := by
  have hupdate : ∀ {j : ℕ} {phase : SetupPhase}, i ≠ j →
      Function.update rt.setups j phase i = rt.setups i :=
    fun hij => Function.update_of_ne hij ..
  cases h with
  | @registered j call hcall hbody =>
    have hsame := (rt.dropSender_sameTasks call.kind call.sessionKey).setups
    by_cases hij : i = j
    · subst hij
      exact Or.inr (.spawned hcall rfl hbody (Function.update_self ..) (Function.update_self ..))
    · exact Or.inl ((Function.update_of_ne hij ..).trans (congrFun hsame i))
  | @setupFailed ev j call message hcall hfails =>
    by_cases hij : i = j
    · subst hij
      exact Or.inr (.failed hcall hfails rfl)
    · exact Or.inl ((congrFun (applyRtcLifecycleResult_sameTasks ..).setups i).trans (hupdate hij))
  | @attached j call node hcall hsetup hnode =>
    by_cases hij : i = j
    · subst hij
      exact Or.inr (.started hsetup (Function.update_self ..))
    · exact Or.inl (hupdate hij)
  | @offered j call hcall hsetup =>
    by_cases hij : i = j
    · subst hij
      exact Or.inr (.offered hsetup (Function.update_self ..))
    · exact Or.inl (hupdate hij)
  | @drained j call hcall hsetup =>
    by_cases hij : i = j
    · subst hij
      exact Or.inr (.drained rfl hsetup (Function.update_self ..))
    · exact Or.inl (hupdate hij)
  | received hloop hclosed hnode hsession =>
    exact Or.inl (congrFun (completeFromSession_sameTasks ..).setups i)
  | @applied loop signal result hloop =>
    refine Or.inl ((congrFun (completeFromSession_sameTasks ..).setups i).trans ?_)
    cases signal <;> rfl
  | channelEvent => exact Or.inl (congrFun (applyRtcLifecycleResult_sameTasks ..).setups i)
  | resumed hcall hbody => exact Or.inl (congrFun (dropSender_sameTasks ..).setups i)
  | _ => exact Or.inl rfl

/-- How a receiver loop goes on. -/
inductive LoopMove (rt : BrowserRuntime E) (ev : RuntimeEvent E) (rt' : BrowserRuntime E)
    (loop : LoopId) : Prop where
  | receiving (h : rt'.loops loop = .receiving) : LoopMove rt ev rt' loop
  | ended (hends : rt.EndsLoop loop ev) (h : rt'.loops loop = .ended) : LoopMove rt ev rt' loop
  | applying {signal : WebRtcSignal E} {result : BrowserBootstrapSignalResult E}
      {key : BrowserSessionKey} {s : BrowserSessionState E} (hkey : result.sessionKey = some key)
      (hresult : result.session = some s) (hsession : rt'.node.session key = some s)
      (h : rt'.loops loop = .applying signal result) : LoopMove rt ev rt' loop

theorem step_loop {ev : RuntimeEvent E} (h : rt.Move ev rt') (loop : LoopId) :
    rt'.loops loop = rt.loops loop ∨ LoopMove rt ev rt' loop := by
  have hupdate : ∀ {other : LoopId} {phase : LoopPhase E}, loop ≠ other →
      Function.update rt.loops other phase loop = rt.loops loop :=
    fun hne => Function.update_of_ne hne ..
  cases h with
  | @registered j call hcall hbody =>
    have hsame := (rt.dropSender_sameTasks call.kind call.sessionKey).loops
    by_cases hloop : loop = .dialer j
    · subst hloop
      exact Or.inr (.receiving (Function.update_self ..))
    · exact Or.inl ((Function.update_of_ne hloop ..).trans (congrFun hsame loop))
  | setupFailed hcall hfails =>
    exact Or.inl (congrFun (applyRtcLifecycleResult_sameTasks ..).loops loop)
  | acceptedBootstrap =>
    by_cases hloop : loop = .incoming rt.nextIncoming
    · subst hloop
      exact Or.inr (.receiving (Function.update_self ..))
    · exact Or.inl (hupdate hloop)
  | @loopEnded ev other node hends hnode =>
    by_cases hloop : loop = other
    · subst hloop
      exact Or.inr (.ended hends (Function.update_self ..))
    · exact Or.inl (hupdate hloop)
  | received hloop hclosed hnode hsession =>
    exact Or.inl (congrFun (completeFromSession_sameTasks ..).loops loop)
  | @applying other signal created node result key s hother hclosed hnode hkey hresult hsession =>
    by_cases hloop : loop = other
    · subst hloop
      exact Or.inr (.applying hkey hresult hsession (Function.update_self ..))
    · exact Or.inl (hupdate hloop)
  | @applied other signal result hother =>
    have hsame : ((rt.setLoop other .receiving).recordSignal signal result.sessionKey).loops =
        Function.update rt.loops other .receiving := by
      cases signal <;> rfl
    have hloops : (((rt.setLoop other .receiving).recordSignal signal
        result.sessionKey).completeFromSignal result).loops =
          Function.update rt.loops other .receiving :=
      (completeFromSession_sameTasks ..).loops.trans hsame
    by_cases hloop : loop = other
    · subst hloop
      exact Or.inr (.receiving ((congrFun hloops loop).trans (Function.update_self ..)))
    · exact Or.inl ((congrFun hloops loop).trans (hupdate hloop))
  | channelEvent => exact Or.inl (congrFun (applyRtcLifecycleResult_sameTasks ..).loops loop)
  | resumed hcall hbody => exact Or.inl (congrFun (dropSender_sameTasks ..).loops loop)
  | _ => exact Or.inl rfl

/-- An answer stays applied. -/
theorem step_answered {ev : RuntimeEvent E} (h : rt.Move ev rt') {key : BrowserSessionKey}
    (hkey : key ∈ rt.answered) : key ∈ rt'.answered := by
  cases h with
  | registered hcall hbody =>
    rw [← (rt.dropSender_sameTasks _ _).answered] at hkey
    exact hkey
  | setupFailed hcall hfails =>
    rw [setupFails, (applyRtcLifecycleResult_sameTasks ..).answered]
    exact hkey
  | received hloop hclosed hnode hsession =>
    rw [(completeFromSession_sameTasks ..).answered]
    exact hkey
  | @applied loop signal result hloop =>
    rw [completeFromSignal, (completeFromSession_sameTasks ..).answered]
    cases signal with
    | answer => exact List.mem_append_right _ hkey
    | _ => exact hkey
  | channelEvent =>
    rw [(applyRtcLifecycleResult_sameTasks ..).answered]
    exact hkey
  | resumed hcall hbody =>
    rw [(dropSender_sameTasks ..).answered]
    exact hkey
  | _ => exact hkey

/-- A relay dial that was attempted stays attempted. -/
theorem step_relayDialed (hreg : rt.Registered) {ev : RuntimeEvent E} (h : rt.Move ev rt') {i : ℕ}
    {call : DialCall E} (hcall : rt.calls i = some call) (hrelay : rt.relayDialed i = true) :
    rt'.relayDialed i = true := by
  cases h with
  | started hev hclosed hnode hkey hsession hphase =>
    refine (Function.update_of_ne ?_ ..).trans hrelay
    rintro rfl
    rw [hreg.fresh _ le_rfl] at hcall
    exact absurd hcall (by simp)
  | registered hcall hbody =>
    exact (congrFun (dropSender_sameTasks ..).relayDialed i).trans hrelay
  | setupFailed hcall hfails =>
    exact (congrFun (applyRtcLifecycleResult_sameTasks ..).relayDialed i).trans hrelay
  | received hloop hclosed hnode hsession =>
    exact (congrFun (completeFromSession_sameTasks ..).relayDialed i).trans hrelay
  | @applied loop signal result hloop =>
    refine (congrFun (completeFromSession_sameTasks ..).relayDialed i).trans ?_
    cases signal <;> exact hrelay
  | channelEvent =>
    exact (congrFun (applyRtcLifecycleResult_sameTasks ..).relayDialed i).trans hrelay
  | @relayStarted j call hcall hbody =>
    show Function.update rt.relayDialed j true i = true
    rw [Function.update_apply]
    split_ifs
    · rfl
    · exact hrelay
  | resumed hcall hbody =>
    exact (congrFun (dropSender_sameTasks ..).relayDialed i).trans hrelay
  | _ => exact hrelay

/-! ## The bodies -/

/-- A session that the event shows to the call that waits for it: the one the event leaves, or the
one a receiver loop has kept while it applied a signal. -/
inductive Shows (rt rt' : BrowserRuntime E) (key : BrowserSessionKey) (s : BrowserSessionState E) :
    Prop where
  | current (h : rt'.node.session key = some s) : Shows rt rt' key s
  | kept {loop : LoopId} {signal : WebRtcSignal E} {result : BrowserBootstrapSignalResult E}
      (h : rt.loops loop = .applying signal result) (hkey : result.sessionKey = some key)
      (hsession : result.session = some s) : Shows rt rt' key s

/-- The event decides the call that waits: the action is read off from a session it shows. -/
inductive Decides (rt rt' : BrowserRuntime E) (i : ℕ) (call : DialCall E) : Prop where
  | intro {s : BrowserSessionState E} {action : PendingAction} {diagnostic : Option String}
      (hshows : rt.Shows rt' call.sessionKey s) (haction : pendingAction s = some action)
      (hwaits : rt.bodies i = .waiting)
      (hbody : rt'.bodies i = decided diagnostic rt'.node.closed action call)
      (hdecision : rt'.decisions i = some action) : Decides rt rt' i call

/-- How the body of a call goes on. -/
inductive BodyMove (rt : BrowserRuntime E) (ev : RuntimeEvent E) (rt' : BrowserRuntime E) (i : ℕ)
    (call : DialCall E) : Prop where
  | advanced (h : (rt.bodies i).Advances (rt'.bodies i)) : BodyMove rt ev rt' i call
  | registered (h : rt.bodies i = .sendingRequest) (h' : rt'.bodies i = .waiting) :
      BodyMove rt ev rt' i call
  | bootstrapFailed (hev : ev = .bootstrapStep i false) (h : (rt.bodies i).Bootstrapping)
      (h' : rt'.bodies i = .returned) : BodyMove rt ev rt' i call
  | decided (h : rt.Decides rt' i call) : BodyMove rt ev rt' i call
  | dropped {j : ℕ} {other : DialCall E} {err : BrowserRuntimeError} (hj : j ≠ i)
      (hother : rt.calls j = some other) (hkey : other.sessionKey = call.sessionKey)
      (h : rt.bodies i = .waiting) (h' : rt'.bodies i = .completed (.error err)) :
      BodyMove rt ev rt' i call
  | taskFailed {err : BrowserRuntimeError} (hev : ev = .taskStarts i)
      (hcause : rt.node.closed = true ∨ rt.node.dialWebrtcStart call.sessionKey = .error err)
      (h : rt.bodies i = .webRtcSpawned) (h' : rt'.bodies i = .completed (.error err)) :
      BodyMove rt ev rt' i call
  | webRtcStarted {s : BrowserSessionState E}
      (hstart : rt.node.dialWebrtcStart call.sessionKey = .ok s)
      (h : rt.bodies i = .webRtcSpawned) (h' : rt'.bodies i = .webRtcDialing s) :
      BodyMove rt ev rt' i call
  | relayClosed (hclosed : rt.node.closed = true) (h : rt.bodies i = .relaySpawned)
      (h' : rt'.bodies i = .completed (.error .closed)) : BodyMove rt ev rt' i call
  | relayStarted (hrelay : rt'.relayDialed i = true) (h : rt.bodies i = .relaySpawned)
      (h' : rt'.bodies i = .relayDialing) : BodyMove rt ev rt' i call
  | webRtcDialFailed {s : BrowserSessionState E} {err : BrowserRuntimeError}
      (hev : ev = .webrtcDialed i (.error err)) (h : rt.bodies i = .webRtcDialing s)
      (h' : rt'.bodies i = .completed (.error err)) : BodyMove rt ev rt' i call
  | webRtcDialed {s : BrowserSessionState E} {connection : Connection E}
      {result : BrowserRuntimeResult (BrowserAcceptedConnection E × Option AcceptWaiter)}
      (hev : ev = .webrtcDialed i (.ok connection)) (h : rt.bodies i = .webRtcDialing s)
      (hdial : rt.node.dialWebrtcConnected call.sessionKey s connection = some (result, rt'.node))
      (h' : rt'.bodies i = .completed (dialOutcome result)) : BodyMove rt ev rt' i call
  | relayDialed {result : DialOutcome E} (h : rt.bodies i = .relayDialing)
      (h' : rt'.bodies i = .completed result) : BodyMove rt ev rt' i call
  | delegated (h : rt.bodies i = .dialingRelay) (h' : rt'.bodies i = .returned) :
      BodyMove rt ev rt' i call
  | resumed {outcome : DialOutcome E} (h : rt.bodies i = .completed outcome)
      (h' : rt'.bodies i = .returned) : BodyMove rt ev rt' i call

omit [DecidableEq E] [EndpointKey E] [Blake3] in
/-- A completion leaves a call alone, or decides it. -/
theorem decides_of_completion (hreg : rt.Registered) {u : BrowserRuntime E}
    (hsame : SameCalls rt u) (hdecisions : u.decisions = rt.decisions)
    {key : Option BrowserSessionKey} {session : Option (BrowserSessionSnapshot E)}
    {diagnostic : Option String} (heq : rt' = u.completeFromSession key session diagnostic)
    (hshows : ∀ k s, key = some k → session = some s → rt.Shows rt' k s) {i : ℕ}
    {call : DialCall E} (hcall : rt.calls i = some call) :
    (rt'.bodies i = rt.bodies i ∧ rt'.decisions i = rt.decisions i) ∨ rt.Decides rt' i call := by
  have hnode : rt'.node = u.node := by rw [heq, completeFromSession_node]
  rcases completeFromSession_body (hreg.congr hsame) key session diagnostic i with
    ⟨hbody, hdecision⟩ | ⟨call', s, action, hcall', hkey, hs, haction, hwaits, hbody, hdecision⟩
  · rw [← heq, hsame.bodies] at hbody
    rw [← heq, hdecisions] at hdecision
    exact Or.inl ⟨hbody, hdecision⟩
  · rw [hsame.calls] at hcall'
    obtain rfl := Option.some.inj (hcall'.symm.trans hcall)
    rw [hsame.bodies] at hwaits
    rw [← heq, ← hnode] at hbody
    rw [← heq] at hdecision
    exact Or.inr (.intro (hshows _ s hkey hs) haction hwaits hbody hdecision)

/-- So does a lifecycle event. -/
theorem decides_of_lifecycle (hreg : rt.Registered) {u : BrowserRuntime E}
    (hsame : SameCalls rt u) (hdecisions : u.decisions = rt.decisions) {input : RtcLifecycleInput}
    (heq : rt' = u.applyRtcLifecycleResult input) {i : ℕ} {call : DialCall E}
    (hcall : rt.calls i = some call) :
    (rt'.bodies i = rt.bodies i ∧ rt'.decisions i = rt.decisions i) ∨ rt.Decides rt' i call := by
  rcases u.applyRtcLifecycleResult_cases input with
    ⟨-, happly⟩ | ⟨-, node, hnode, ⟨err, -, happly⟩ | ⟨s, diagnostic, hs, happly⟩⟩
  · rw [heq, happly]
    exact Or.inl ⟨congrFun hsame.bodies i, congrFun hdecisions i⟩
  · rw [heq, happly]
    exact Or.inl ⟨congrFun hsame.bodies i, congrFun hdecisions i⟩
  · have hnode' : rt'.node = node := by rw [heq, happly, completeFromSession_node]
    refine decides_of_completion hreg (u := { u with node := node })
      ⟨hsame.calls, hsame.nextCall, hsame.bodies, hsame.pending⟩ hdecisions (heq.trans happly) ?_
      hcall
    intro k s' hk hs'
    obtain rfl := Option.some.inj hk
    obtain rfl := Option.some.inj hs'
    exact .current (hnode' ▸ hs)

omit [Blake3] in
/-- A step that sets the body of one call is a move of that call and of no other. -/
theorem body_of_update {ev : RuntimeEvent E} {i j : ℕ} {call call' : DialCall E}
    {phase : DialPhase E} (hcall : rt.calls i = some call) (hcall' : rt.calls j = some call')
    (hbodies : rt'.bodies = Function.update rt.bodies j phase)
    (hmove : j = i → call' = call → rt'.bodies i = phase → BodyMove rt ev rt' i call) :
    rt'.bodies i = rt.bodies i ∨ BodyMove rt ev rt' i call := by
  by_cases hji : j = i
  · refine Or.inr (hmove hji ?_ ?_)
    · rw [hji] at hcall'
      exact Option.some.inj (hcall'.symm.trans hcall)
    · rw [hbodies, hji, Function.update_self]
  · rw [hbodies, Function.update_of_ne (Ne.symm hji)]
    exact Or.inl rfl

omit [Blake3] in
/-- A step that drops the sender of one call completes another only if that one waits at the same
session. -/
theorem body_of_dropSender {ev : RuntimeEvent E} {u : BrowserRuntime E} (hreg : u.Registered)
    {i j : ℕ} (hbody : u.bodies i = rt.bodies i) (hcalls : u.calls = rt.calls)
    {call call' : DialCall E} (hcall : rt.calls i = some call) (hcall' : rt.calls j = some call')
    (hji : j ≠ i)
    (hdropped : rt'.bodies i = (u.dropSender call'.kind call'.sessionKey).bodies i) :
    rt'.bodies i = rt.bodies i ∨ BodyMove rt ev rt' i call := by
  rcases dropSender_body hreg call'.kind call'.sessionKey i with
    hsame | ⟨hwaits, ⟨other, hother, hkey⟩, hcompleted⟩
  · exact Or.inl (hdropped.trans (hsame.trans hbody))
  · rw [hcalls] at hother
    obtain rfl := Option.some.inj (hother.symm.trans hcall)
    exact Or.inr (.dropped hji hcall' hkey.symm (hbody.symm.trans hwaits)
      (hdropped.trans hcompleted))

/-- **What a step does to the body of a call**: nothing, or one of the moves of `BodyMove`;
and only the one that decides it touches its decision. -/
theorem step_body (hreg : rt.Registered) {ev : RuntimeEvent E} (h : rt.Move ev rt') {i : ℕ}
    {call : DialCall E} (hcall : rt.calls i = some call) :
    (rt'.bodies i = rt.bodies i ∨ BodyMove rt ev rt' i call) ∧
      (rt'.decisions i = rt.decisions i ∨ rt.Decides rt' i call) := by
  have hkeep : ∀ {P : Prop}, P → rt'.decisions i = rt.decisions i →
      P ∧ (rt'.decisions i = rt.decisions i ∨ rt.Decides rt' i call) :=
    fun h hdecision => ⟨h, Or.inl hdecision⟩
  have hdecides : (rt'.bodies i = rt.bodies i ∧ rt'.decisions i = rt.decisions i) ∨
      rt.Decides rt' i call →
        (rt'.bodies i = rt.bodies i ∨ BodyMove rt ev rt' i call) ∧
          (rt'.decisions i = rt.decisions i ∨ rt.Decides rt' i call) := by
    rintro (⟨hbody, hdecision⟩ | h)
    · exact ⟨Or.inl hbody, Or.inl hdecision⟩
    · exact ⟨Or.inr (.decided h), Or.inr h⟩
  cases h with
  | started hev hclosed hnode hkey hsession hphase =>
    have hi : i ≠ rt.nextCall := by
      rintro rfl
      rw [hreg.fresh _ le_rfl] at hcall
      exact absurd hcall (by simp)
    exact hkeep (Or.inl (Function.update_of_ne hi ..)) (Function.update_of_ne hi ..)
  | @advanced j call' phase hcall' hbody =>
    refine hkeep (body_of_update hcall hcall' rfl ?_) rfl
    rintro rfl rfl hself
    exact .advanced (by rw [hself]; exact hbody)
  | @registered j call' hcall' hbody =>
    refine hkeep ?_ (congrFun (dropSender_decisions ..) i)
    by_cases hji : j = i
    · subst hji
      exact Or.inr (.registered hbody (Function.update_self ..))
    · exact body_of_dropSender hreg rfl rfl hcall hcall' hji
        (Function.update_of_ne (Ne.symm hji) ..)
  | @bootstrapFailed j call' message hcall' hbody =>
    refine hkeep (body_of_update hcall hcall' rfl ?_) rfl
    rintro rfl rfl hself
    exact .bootstrapFailed rfl hbody hself
  | @setupFailed ev j call' message hcall' hfails =>
    exact hdecides (decides_of_lifecycle (u := rt.setSetup j .finished) hreg
      ⟨rfl, rfl, rfl, rfl⟩ rfl rfl hcall)
  | @received loop signal created node key s diagnostic hloop hclosed hnode hsession =>
    refine hdecides (decides_of_completion hreg (u := { rt with node := node })
      ⟨rfl, rfl, rfl, rfl⟩ rfl rfl ?_ hcall)
    intro k s' hk hs
    obtain rfl := Option.some.inj hk
    obtain rfl := Option.some.inj hs
    exact .current (by rw [completeFromSession_node]; exact hsession)
  | @applied loop signal result hloop =>
    have hrecord : SameCalls rt
        ((rt.setLoop loop .receiving).recordSignal signal result.sessionKey) := by
      cases signal <;> exact ⟨rfl, rfl, rfl, rfl⟩
    have hdecisions : ((rt.setLoop loop .receiving).recordSignal signal
        result.sessionKey).decisions = rt.decisions := by
      cases signal <;> rfl
    exact hdecides (decides_of_completion hreg hrecord hdecisions rfl
      (fun k s hk hs => .kept hloop hk hs) hcall)
  | @channelEvent key event =>
    exact hdecides (decides_of_lifecycle hreg (u := rt) ⟨rfl, rfl, rfl, rfl⟩ rfl rfl hcall)
  | @taskFailed j call' err hcall' hbody hcause =>
    refine hkeep (body_of_update hcall hcall' rfl ?_) rfl
    rintro rfl rfl hself
    exact .taskFailed rfl hcause hbody hself
  | @webRtcStarted j call' s hcall' hbody hstart =>
    refine hkeep (body_of_update hcall hcall' rfl ?_) rfl
    rintro rfl rfl hself
    exact .webRtcStarted hstart hbody hself
  | @relayClosed j call' hcall' hbody hclosed =>
    refine hkeep (body_of_update hcall hcall' rfl ?_) rfl
    rintro rfl rfl hself
    exact .relayClosed hclosed hbody hself
  | @relayStarted j call' hcall' hbody =>
    refine hkeep (body_of_update hcall hcall' rfl ?_) rfl
    rintro rfl rfl hself
    exact .relayStarted (Function.update_self ..) hbody hself
  | @webRtcDialFailed j call' s err hcall' hbody =>
    refine hkeep (body_of_update hcall hcall' rfl ?_) rfl
    rintro rfl rfl hself
    exact .webRtcDialFailed rfl hbody hself
  | @webRtcDialed j call' s connection node result hcall' hbody hdial =>
    refine hkeep (body_of_update hcall hcall' rfl ?_) rfl
    rintro rfl rfl hself
    exact .webRtcDialed rfl hbody hdial hself
  | @relayDialed j call' outcome node result hcall' hbody hnode =>
    refine hkeep (body_of_update hcall hcall' rfl ?_) rfl
    rintro rfl rfl hself
    exact .relayDialed hbody hself
  | @delegated j call' outcome node result hcall' hbody hnode =>
    refine hkeep (body_of_update hcall hcall' rfl ?_) rfl
    rintro rfl rfl hself
    exact .delegated hbody hself
  | @resumed j call' outcome hcall' hbody =>
    have hreturned : (rt.setBody j .returned).Registered :=
      hreg.setBody (by rw [hbody]; simp) (by simp)
    have hreg' : (rt.finish j call' outcome).Registered := hreturned.congr ⟨rfl, rfl, rfl, rfl⟩
    refine hkeep ?_ (congrFun (dropSender_decisions ..) i)
    by_cases hji : j = i
    · -- the call that returns does not wait, so the sender it drops is not its own
      subst hji
      have hreturned : (rt.finish j call' outcome).bodies j = .returned := setBody_self ..
      rcases dropSender_body hreg' call'.kind call'.sessionKey j with hsame | ⟨hwaits, -⟩
      · exact Or.inr (.resumed hbody (hsame.trans hreturned))
      · exact absurd (hreturned.symm.trans hwaits) (by simp)
    · have hkept : (rt.finish j call' outcome).bodies i = rt.bodies i :=
        setBody_ne rt (Ne.symm hji) .returned
      exact body_of_dropSender hreg' hkept rfl hcall hcall' hji rfl
  | _ => exact hkeep (Or.inl rfl) rfl

/-- The calls that wait stay the ones that are registered as pending. -/
theorem Registered.step (hreg : rt.Registered) {ev : RuntimeEvent E} (h : rt.Move ev rt') :
    rt'.Registered := by
  have hbody : ∀ {i : ℕ} {phase phase' : DialPhase E}, rt.bodies i = phase → phase ≠ .waiting →
      phase' ≠ .waiting → (rt.setBody i phase').Registered := by
    rintro i phase phase' rfl hphase hphase'
    exact hreg.setBody hphase hphase'
  cases h with
  | @started ev request key node phase relayDialed hev hclosed hnode hkey hsession hphase =>
    have hnode' : ({ rt with node := node }).Registered := hreg.congr ⟨rfl, rfl, rfl, rfl⟩
    refine hnode'.start ?_
    rcases hphase with ⟨rfl, -⟩ | ⟨rfl | rfl, -⟩ <;> simp
  | advanced hcall hadvances =>
    exact hbody rfl hadvances.ne_waiting.1 hadvances.ne_waiting.2
  | registered hcall hsending => exact hreg.register hcall (by rw [hsending]; simp)
  | bootstrapFailed hcall hbootstrap =>
    refine (hbody rfl ?_ (by simp)).congr ⟨rfl, rfl, rfl, rfl⟩
    intro hwaits
    rw [hwaits] at hbootstrap
    exact hbootstrap
  | @setupFailed ev i call message hcall hfails =>
    have hsetup : (rt.setSetup i .finished).Registered := hreg.congr ⟨rfl, rfl, rfl, rfl⟩
    exact hsetup.applyRtcLifecycleResult _
  | @received loop signal created node key s diagnostic hloop hclosed hnode hsession =>
    have hnode' : ({ rt with node := node }).Registered := hreg.congr ⟨rfl, rfl, rfl, rfl⟩
    exact hnode'.completeFromSession ..
  | @applied loop signal result hloop =>
    have hrecord : ((rt.setLoop loop .receiving).recordSignal signal
        result.sessionKey).Registered := by
      refine hreg.congr ?_
      cases signal <;> exact ⟨rfl, rfl, rfl, rfl⟩
    exact hrecord.completeFromSession ..
  | channelEvent => exact hreg.applyRtcLifecycleResult _
  | taskFailed hcall hspawned hcause => exact hbody hspawned (by simp) (by simp)
  | webRtcStarted hcall hspawned hstart => exact hbody hspawned (by simp) (by simp)
  | relayClosed hcall hspawned hclosed => exact hbody hspawned (by simp) (by simp)
  | relayStarted hcall hspawned =>
    exact (hbody hspawned (by simp) (by simp)).congr ⟨rfl, rfl, rfl, rfl⟩
  | webRtcDialFailed hcall hdialing => exact hbody hdialing (by simp) (by simp)
  | webRtcDialed hcall hdialing hdial =>
    exact (hbody hdialing (by simp) (by simp)).congr ⟨rfl, rfl, rfl, rfl⟩
  | relayDialed hcall hdialing hnode =>
    exact (hbody hdialing (by simp) (by simp)).congr ⟨rfl, rfl, rfl, rfl⟩
  | delegated hcall hdialing hnode =>
    exact (hbody hdialing (by simp) (by simp)).congr ⟨rfl, rfl, rfl, rfl⟩
  | @resumed i call outcome hcall hcompleted =>
    have hfinish : (rt.finish i call outcome).Registered :=
      (hbody hcompleted (by simp) (by simp)).congr ⟨rfl, rfl, rfl, rfl⟩
    exact hfinish.dropSender ..
  | _ => exact hreg.congr ⟨rfl, rfl, rfl, rfl⟩

omit [DecidableEq E] [EndpointKey E] [Blake3] in
theorem lookup_dropSender {kind kind' : DialKind} {key key' : BrowserSessionKey}
    {entry : PendingEntry E}
    (h : ((rt.dropSender kind key).pending kind').lookup key' = some entry) :
    (rt.pending kind').lookup key' = some entry := by
  cases hentry : (rt.pending kind).lookup key with
  | none =>
    rw [dropSender_none hentry] at h
    exact h
  | some taken =>
    rw [dropSender_some hentry] at h
    exact (lookup_erase_pending.mp h).2

/-- What a lifecycle event leaves pending was pending before. -/
theorem lookup_applyRtcLifecycleResult {input : RtcLifecycleInput} {kind : DialKind}
    {key : BrowserSessionKey} {entry : PendingEntry E}
    (h : ((rt.applyRtcLifecycleResult input).pending kind).lookup key = some entry) :
    (rt.pending kind).lookup key = some entry := by
  rcases rt.applyRtcLifecycleResult_cases input with
    ⟨-, heq⟩ | ⟨-, node, hnode, ⟨err, -, heq⟩ | ⟨s, diagnostic, -, heq⟩⟩
  · rw [heq] at h
    exact h
  · rw [heq] at h
    exact h
  · rw [heq] at h
    exact (lookup_completeFromSession h).1

/-- A call is pending because it was before, or because the step has registered it. -/
theorem step_lookup {ev : RuntimeEvent E} (h : rt.Move ev rt') {kind : DialKind}
    {key : BrowserSessionKey} {entry : PendingEntry E}
    (hentry : (rt'.pending kind).lookup key = some entry) :
    (rt.pending kind).lookup key = some entry ∨ rt'.setups entry.sender = .spawned := by
  cases h with
  | @registered i call hcall hbody =>
    have hpending : ((rt.register i call).pending kind).lookup key =
        (((rt.dropSender call.kind call.sessionKey).setPending call.kind
          (((rt.dropSender call.kind call.sessionKey).pending call.kind).insert call.sessionKey
            ⟨i, call⟩)).pending kind).lookup key := rfl
    rw [hpending, setPending_pending] at hentry
    by_cases hkind : kind = call.kind
    · rw [if_pos hkind, Table.lookup_insert_eq] at hentry
      split_ifs at hentry with hkey
      · obtain rfl := Option.some.inj hentry
        exact Or.inr (Function.update_self ..)
      · rw [← hkind] at hentry
        exact Or.inl (lookup_dropSender hentry)
    · rw [if_neg hkind] at hentry
      exact Or.inl (lookup_dropSender hentry)
  | @setupFailed ev i call message hcall hfails =>
    have hlookup : ((rt.setSetup i .finished).pending kind).lookup key = some entry :=
      lookup_applyRtcLifecycleResult hentry
    exact Or.inl hlookup
  | received hloop hclosed hnode hsession => exact Or.inl (lookup_completeFromSession hentry).1
  | @applied loop signal result hloop =>
    refine Or.inl ?_
    have hlookup := (lookup_completeFromSession hentry).1
    cases signal <;> exact hlookup
  | channelEvent => exact Or.inl (lookup_applyRtcLifecycleResult hentry)
  | @resumed i call outcome hcall hbody =>
    have hlookup : ((rt.finish i call outcome).pending kind).lookup key = some entry :=
      lookup_dropSender hentry
    exact Or.inl hlookup
  | _ => exact Or.inl hentry

/-! ## Returned calls -/

/-- Why a call has returned. -/
inductive Returns (rt : BrowserRuntime E) (ev : RuntimeEvent E) (r : DialReturn E) : Prop where
  | refused (hev : ev.request = some r.request)
      (hcause : rt.node.closed = true ∨ r.request.alpn.isEmpty = true)
      (hopen : r.nodeOpen = !rt.node.closed) : Returns rt ev r
  | finished {i : ℕ} {call : DialCall E} (hcall : rt.calls i = some call)
      (hrequest : r.request = call.toDialRequest) (hrelay : r.relayDialed = rt.relayDialed i)
      (hcause : ev = .bootstrapStep i false ∧ (rt.bodies i).Bootstrapping ∧
          r.nodeOpen = !rt.node.closed ∨
        rt.bodies i = .dialingRelay ∨
        rt.bodies i = .completed r.outcome ∧ r.nodeOpen = !rt.node.closed) : Returns rt ev r

theorem step_returns {ev : RuntimeEvent E} (h : rt.Move ev rt') {r : DialReturn E}
    (hr : r ∈ rt'.returns) : r ∈ rt.returns ∨ rt.Returns ev r := by
  cases h with
  | @refused ev request err hev hcause =>
    rcases List.mem_cons.mp hr with rfl | hr
    · exact Or.inr (.refused hev hcause rfl)
    · exact Or.inl hr
  | registered hcall hbody =>
    rw [← (dropSender_sameTasks ..).returns]
    exact Or.inl hr
  | bootstrapFailed hcall hbody =>
    rcases List.mem_cons.mp hr with rfl | hr
    · exact Or.inr (.finished hcall rfl rfl (Or.inl ⟨rfl, hbody, rfl⟩))
    · exact Or.inl hr
  | setupFailed hcall hfails =>
    rw [setupFails, (applyRtcLifecycleResult_sameTasks ..).returns] at hr
    exact Or.inl hr
  | received hloop hclosed hnode hsession =>
    rw [(completeFromSession_sameTasks ..).returns] at hr
    exact Or.inl hr
  | @applied loop signal result hloop =>
    rw [completeFromSignal, (completeFromSession_sameTasks ..).returns] at hr
    cases signal <;> exact Or.inl hr
  | channelEvent =>
    rw [(applyRtcLifecycleResult_sameTasks ..).returns] at hr
    exact Or.inl hr
  | delegated hcall hbody hnode =>
    rcases List.mem_cons.mp hr with rfl | hr
    · exact Or.inr (.finished hcall rfl rfl (Or.inr (Or.inl hbody)))
    · exact Or.inl hr
  | resumed hcall hbody =>
    rw [(dropSender_sameTasks ..).returns] at hr
    rcases List.mem_cons.mp hr with rfl | hr
    · exact Or.inr (.finished hcall rfl rfl (Or.inr (Or.inr ⟨hbody, rfl⟩)))
    · exact Or.inl hr
  | _ => exact Or.inl hr

/-! ## Runs -/

/-- What holds of a runtime in every run: the calls that wait are registered, every call has a
session, and so has every signal that a receiver loop applies. -/
structure WellFormed (rt : BrowserRuntime E) : Prop where
  registered : rt.Registered
  wellKeyed : rt.node.WellKeyed
  session : ∀ i call, rt.calls i = some call → ∃ s, rt.node.session call.sessionKey = some s
  kept : ∀ loop signal result key, rt.loops loop = .applying signal result →
    result.sessionKey = some key → ∃ s, rt.node.session key = some s

/-- A session stays in the table. -/
theorem session_of_step {ev : RuntimeEvent E} (hwf : rt.node.WellKeyed) (h : rt.Move ev rt')
    {key : BrowserSessionKey} {s : BrowserSessionState E} (hs : rt.node.session key = some s) :
    ∃ t, rt'.node.session key = some t := by
  rcases step_node h with hnode | ⟨op, -, hop⟩
  · exact ⟨s, by rw [hnode, hs]⟩
  · rcases BrowserRuntimeNode.step_session hwf hop key with hsame | ⟨t, ht, -⟩
    · exact ⟨s, hsame.trans hs⟩
    · exact ⟨t, ht⟩

theorem WellFormed.step (hwf : rt.WellFormed) {ev : RuntimeEvent E}
    (h : rt.step ev = some rt') : rt'.WellFormed := by
  have hmove := step_move h
  refine ⟨hwf.registered.step hmove, ?_, fun i call hcall => ?_,
    fun loop signal result key hloop hkey => ?_⟩
  · rcases step_node hmove with hnode | ⟨op, -, hop⟩
    · rw [hnode]
      exact hwf.wellKeyed
    · exact hwf.wellKeyed.step hop
  · rcases step_call hmove hcall with hold | hstarts
    · obtain ⟨s, hs⟩ := hwf.session i call hold
      exact session_of_step hwf.wellKeyed hmove hs
    · obtain ⟨dialId, generation, hs⟩ := hstarts.session
      exact ⟨_, hs⟩
  · rcases step_loop hmove loop with hsame | hloopMove
    · obtain ⟨s, hs⟩ := hwf.kept loop signal result key (hsame ▸ hloop) hkey
      exact session_of_step hwf.wellKeyed hmove hs
    · cases hloopMove with
      | receiving h => exact absurd (h.symm.trans hloop) (by simp)
      | ended hends h => exact absurd (h.symm.trans hloop) (by simp)
      | applying hkey' hresult hsession h =>
        obtain ⟨rfl, rfl⟩ := LoopPhase.applying.inj (h.symm.trans hloop)
        obtain rfl := Option.some.inj (hkey'.symm.trans hkey)
        exact ⟨_, hsession⟩

omit [DecidableEq E] [Blake3] in
theorem wellFormed_new {node : BrowserRuntimeNode E} (hspawned : node.Spawned) :
    (new node).WellFormed := by
  have hlookup : ∀ kind key entry, ((new node).pending kind).lookup key ≠ some entry := by
    intro kind key entry h
    exact absurd h (by simp [new])
  refine ⟨⟨fun kind key entry h => absurd h (hlookup kind key entry), ?_, fun _ _ => rfl⟩,
    hspawned.wellKeyed, ?_, ?_⟩
  · intro i call hcall
    exact absurd hcall (by simp [new])
  · intro i call hcall
    exact absurd hcall (by simp [new])
  · intro loop signal result key hloop
    exact absurd hloop (by simp [new])

/-! ### Runs in which every dial gets a new id -/

/-- The id that a dial generates is not that of a session the node has. -/
def FreshDial (rt : BrowserRuntime E) (ev : RuntimeEvent E) : Prop :=
  ∀ op, rt.Issues ev op → rt.node.FreshDialId op

/-- Only the start of a call generates an id. -/
theorem freshDial_of_request {ev : RuntimeEvent E} (hev : ev.request = none) : rt.FreshDial ev := by
  intro op hissues remote alpn transportIntent session dialIds hop
  subst hop
  cases hissues with
  | dial hrequest => exact absurd (hev.symm.trans hrequest) (by simp)
  | direct hdirect => exact absurd hdirect (by simp [NodeOp.isDirect])

/-- The session of a call that starts was not in the table. -/
theorem Starts.unused {ev : RuntimeEvent E} {i : ℕ} {call : DialCall E}
    (h : rt.Starts ev rt' i call) (hfresh : rt.FreshDial ev) :
    rt.node.session call.sessionKey = none := by
  obtain ⟨session, dialIds, hnext, hkey⟩ := h.key
  rw [hkey]
  exact hfresh _ (.dial h.request) _ _ _ session dialIds rfl hnext

end BrowserRuntime

end IrohWebRtc
