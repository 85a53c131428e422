import IrohWebRtc.Browser.SessionRuns

/-!
# The advertised addresses of the browser node

What the WebRTC transport advertises is computed from the session table, and is computed again by
the operations that change a session through `update_session`, by the allocation of a session that
uses WebRTC, by the admission of a connection and by its closing.  A terminal decision and a
terminal signal of the other side change a session without it.

A session that has ended should not be advertised, and it is not once the addresses are computed
again for whatever reason.  So the mistake shows only between such a step and the next refresh,
and only if the session that ended was advertised; the condition says so.

* `Withdraws` lists the operations that write a session and leave the addresses as they are.
* `upToDate_iff`: over a run of an open node the addresses are up to date after each operation if
  and only if none of these operations meets a session that is advertised.

The order of the addresses is not followed.  The source collects them from a hash map, and two
lists with the same members are the same advertisement.
-/

namespace IrohWebRtc

namespace BrowserRuntimeNode

section

variable {E : Type*} [EndpointKey E] {node node' : BrowserRuntimeNode E}

/-! ## Addresses of sessions -/

theorem sessionAddr_ne_capability (s : BrowserSessionState E) (endpointId : E) :
    sessionAddr s ≠ (WebRtcAddr.capability endpointId).toCustomAddr := by
  intro h
  have haddr := WebRtcAddr.toCustomAddr_injective h
  have hkind := congrArg WebRtcAddr.kind haddr
  exact absurd hkind (by simp [WebRtcAddr.session, WebRtcAddr.capability])

/-- Sessions of one node have their own addresses. -/
theorem key_eq_of_sessionAddr_eq (hwf : node.WellKeyed) {key key' : BrowserSessionKey}
    {s s' : BrowserSessionState E} (hs : node.session key = some s)
    (hs' : node.session key' = some s') (h : sessionAddr s = sessionAddr s') : key = key' := by
  have haddr := WebRtcAddr.toCustomAddr_injective h
  have hkind := congrArg WebRtcAddr.kind haddr
  have hdial : s.dialId = s'.dialId := by
    simpa [WebRtcAddr.session] using hkind
  rw [hwf.dialId key s hs, hwf.dialId key' s' hs', hdial]

/-- A write of a session that is not advertised, in the place of one that was not, needs no
refresh. -/
theorem UpToDate.of_unadvertised {key : BrowserSessionKey} {t : BrowserSessionState E}
    (hwrote : Wrote node (some (key, t)) node') (haddrs : node'.localAddrs = node.localAddrs)
    (ht : advertises t = false)
    (hs : ∀ s, node.session key = some s → advertises s = false) (h : node.UpToDate) :
    node'.UpToDate := by
  intro addr
  rw [haddrs, hwrote.endpointId, h addr]
  refine or_congr_right ⟨?_, ?_⟩
  · rintro ⟨key', s, hs', hadv, haddr⟩
    have hne : key' ≠ key := by
      rintro rfl
      exact absurd ((hs s hs').symm.trans hadv) (by simp)
    refine ⟨key', s, ?_, hadv, haddr⟩
    rw [hwrote.session, write, Function.update_of_ne hne]
    exact hs'
  · rintro ⟨key', s, hs', hadv, haddr⟩
    have hne : key' ≠ key := by
      rintro rfl
      rw [hwrote.session, write, Function.update_self] at hs'
      obtain rfl := Option.some.inj hs'
      exact absurd (ht.symm.trans hadv) (by simp)
    rw [hwrote.session, write, Function.update_of_ne hne] at hs'
    exact ⟨key', s, hs', hadv, haddr⟩

/-- Without a refresh, a write over an advertised session leaves its address behind. -/
theorem advertises_eq_false_of_upToDate (hwf : node.WellKeyed)
    {key : BrowserSessionKey} {s t : BrowserSessionState E} (hs : node.session key = some s)
    (hwrote : Wrote node (some (key, t)) node') (haddrs : node'.localAddrs = node.localAddrs)
    (ht : advertises t = false) (h : node.UpToDate) (h' : node'.UpToDate) :
    advertises s = false := by
  by_contra hadv
  have hmem : sessionAddr s ∈ node.localAddrs :=
    (h _).mpr (Or.inr ⟨key, s, hs, by simpa using hadv, rfl⟩)
  rw [← haddrs] at hmem
  rcases (h' _).mp hmem with hcapability | ⟨key', s', hs', hadv', haddr⟩
  · exact sessionAddr_ne_capability s _ hcapability
  · have hne : key' ≠ key := by
      rintro rfl
      rw [hwrote.session, write, Function.update_self] at hs'
      obtain rfl := Option.some.inj hs'
      exact absurd (ht.symm.trans hadv') (by simp)
    rw [hwrote.session, write, Function.update_of_ne hne] at hs'
    exact hne (key_eq_of_sessionAddr_eq hwf hs' hs haddr.symm)

/-! ## Operations that do not refresh -/

omit [EndpointKey E] in
theorem not_advertises_applyTerminalReason (s : BrowserSessionState E)
    (reason : WebRtcTerminalReason) :
    advertises (s.applyTerminalReason reason).2 = false := by
  cases reason with
  | fallbackSelected =>
    rw [BrowserSessionState.applyTerminalReason]
    split_ifs <;> simp [advertises, BrowserSessionState.fail]
  | webRtcFailed =>
    simp [advertises, BrowserSessionState.applyTerminalReason, BrowserSessionState.fail]
  | cancelled | closed =>
    simp [advertises, BrowserSessionState.applyTerminalReason, BrowserSessionState.close]

omit [EndpointKey E] in
theorem not_advertises_new {key : BrowserSessionKey} {dialId : DialId} {generation : ℕ}
    {localId remote : E} {alpn : String} {role : BrowserSessionRole}
    {transportIntent : BootstrapTransportIntent} (h : transportIntent.usesWebrtc = false) :
    advertises (.new key dialId generation localId remote alpn role transportIntent) = false := by
  simp [advertises, BrowserSessionState.new, h]

variable [DecidableEq E] [Blake3]

/-- The operations that write the session of `key` and leave the addresses as they are: those that
end it, and a relay dial whose generated key is taken. -/
inductive Withdraws (node : BrowserRuntimeNode E) (op : NodeOp E) (key : BrowserSessionKey)
    (s : BrowserSessionState E) : Prop where
  | ended {reason : WebRtcTerminalReason} (hends : node.Ends op key s reason) :
      Withdraws node op key s
  | replaced {remote : E} {alpn : String} {session : DialSessionId}
      {dialIds : DialIdGenerator E} (hop : op = .allocateDial remote alpn .irohRelay)
      (halpn : alpn.isEmpty = false) (hnext : node.dialIds.next remote = some (session, dialIds))
      (hkey : key = .ofDialId session.dialId) : Withdraws node op key s

/-- The operation refreshes the addresses, or meets no session that is advertised. -/
def RespectsAdvertised (node : BrowserRuntimeNode E) (op : NodeOp E) : Prop :=
  node.closed = false → ∀ key s, node.session key = some s → node.Withdraws op key s →
    advertises s = false

omit [EndpointKey E] [DecidableEq E] [Blake3] in
theorem refreshes_of_decides {op : NodeOp E}
    {decided : BrowserSessionKey × Option WebRtcTerminalReason} (h : op.decides = some decided) :
    op.refreshes = false := by
  cases op with
  | rtcLifecycle input => simp [NodeOp.refreshes, h]
  | decideWebrtcFailure | closeSession => rfl
  | _ => exact absurd h (by simp [NodeOp.decides])

/-- What such an operation writes is not advertised. -/
theorem written_of_withdraws (hclosed : node.closed = false) {op : NodeOp E}
    {key : BrowserSessionKey} {s : BrowserSessionState E} (hs : node.session key = some s)
    (h : node.Withdraws op key s) :
    (∀ reason, op ≠ .closeNode reason) ∧ op.refreshes = false ∧
      ∃ t, node.written op = some (key, t) ∧ advertises t = false := by
  cases h with
  | ended hends =>
    refine ⟨hends.ne_closeNode, ?_, ?_⟩
    · cases hends with
      | decided hop => exact refreshes_of_decides hop
      | terminated hop hkey =>
        subst hop
        rfl
    · obtain ⟨s', -, -, hwritten⟩ := written_of_ends hclosed hs hends
      exact ⟨_, hwritten, not_advertises_applyTerminalReason _ _⟩
  | @replaced remote alpn session dialIds hop halpn hnext hkey =>
    subst hop hkey
    refine ⟨by simp, rfl, .new (.ofDialId session.dialId) session.dialId session.generation
      node.endpointId remote alpn .dialer .irohRelay, ?_, not_advertises_new rfl⟩
    rw [written, dialedEntry, if_neg (by simp [hclosed, halpn]), hnext]
    rfl

/-- What an operation without a refresh writes is not advertised, and the operation is one of
these. -/
theorem withdraws_of_written {op : NodeOp E} (hop : op.refreshes = false)
    {key : BrowserSessionKey} {t : BrowserSessionState E}
    (h : node.written op = some (key, t)) :
    advertises t = false ∧ ∀ s, node.session key = some s → node.Withdraws op key s := by
  cases hdecides : op.decides with
  | some decided =>
    obtain ⟨decided, reason⟩ := decided
    rw [written_of_decides hdecides] at h
    obtain ⟨-, rfl, s, hs, ht⟩ := entry_eq_some.mp h
    obtain rfl := Option.some.inj ht
    exact ⟨not_advertises_applyTerminalReason _ _, fun s' _ => .ended (.decided hdecides)⟩
  | none =>
    cases op with
    | allocateDial remote alpn transportIntent =>
      rw [written, dialedEntry] at h
      split_ifs at h with hcond
      obtain ⟨⟨session, dialIds⟩, hnext, heq⟩ := Option.map_eq_some_iff.mp h
      obtain ⟨rfl, rfl⟩ := Prod.mk.inj heq
      refine ⟨not_advertises_new hop, fun s hs => ?_⟩
      cases transportIntent with
      | irohRelay =>
        exact .replaced rfl (by simpa using (not_or.mp hcond).2) hnext rfl
      | webRtcPreferred | webRtcOnly => exact absurd hop (by simp [NodeOp.refreshes,
          BootstrapTransportIntent.usesWebrtc])
    | bootstrapSignal input =>
      obtain ⟨signal, alpnOverride⟩ := input
      cases signal with
      | dialRequest dialId fromId toId generation alpn transportIntent =>
        obtain ⟨alpn, haccepted⟩ := acceptedEntry_of_signalledEntry h
        obtain ⟨-, hnew, rfl⟩ := acceptedEntry_eq_some haccepted
        exact ⟨not_advertises_new hop, fun s hs => absurd (hnew.symm.trans hs) (by simp)⟩
      | terminal dialId fromId toId generation reason message =>
        obtain ⟨-, hkey, hto, s, hs, hroute, rfl⟩ := terminatedEntry_eq_some h
        refine ⟨not_advertises_applyTerminalReason _ _, fun s' hs' => ?_⟩
        obtain rfl := Option.some.inj (hs.symm.trans hs')
        obtain ⟨hremote, hgeneration⟩ := hroute
        obtain rfl : toId = node.endpointId := hto
        obtain rfl : s.remote = fromId := hremote
        obtain rfl : s.generation = generation := hgeneration
        exact .ended (.terminated rfl hkey)
      | offer | answer | iceCandidate | endOfCandidates =>
        exact absurd h (by simp [written, signalledEntry])
    | _ => exact absurd hop (by simp [NodeOp.refreshes, hdecides])

/-! ## Runs -/

/-- What holds of the addresses of a node while it is open. -/
def UpToDateWhileOpen (node : BrowserRuntimeNode E) : Prop := node.closed = false → node.UpToDate

theorem UpToDateWhileOpen.step {op : NodeOp E} (hop : node.RespectsAdvertised op)
    (hstep : node.step op = some node') (h : node.UpToDateWhileOpen) :
    node'.UpToDateWhileOpen := by
  intro hclosed'
  by_cases hclose : ∃ reason, op = .closeNode reason
  · obtain ⟨reason, rfl⟩ := hclose
    obtain rfl := Option.some.inj hstep
    rw [closeInner] at hclosed'
    split_ifs at hclosed' with hclosed
    exact absurd (hclosed.symm.trans hclosed') (by simp)
  · rw [not_exists] at hclose
    obtain ⟨hwrote, hfollows, hstale⟩ := step_effect hclose hstep
    have hclosed : node.closed = false := hwrote.closed.symm.trans hclosed'
    have hbefore := h hclosed
    have hsame : node.written op = none → node'.localAddrs = node.localAddrs →
        node'.UpToDate := by
      intro hnone haddrs
      rw [hnone] at hwrote
      exact hbefore.congr ⟨hwrote.session, haddrs, hwrote.endpointId, hwrote.closed⟩
    cases hrefreshes : op.refreshes with
    | true =>
      rcases hfollows hrefreshes with hup | ⟨hnone, haddrs⟩
      · exact hup
      · exact hsame hnone haddrs
    | false =>
      have haddrs := hstale hrefreshes
      cases hwritten : node.written op with
      | none => exact hsame hwritten haddrs
      | some entry =>
        obtain ⟨key, t⟩ := entry
        obtain ⟨ht, hwithdraws⟩ := withdraws_of_written hrefreshes hwritten
        rw [hwritten] at hwrote
        exact hbefore.of_unadvertised hwrote haddrs ht fun s hs =>
          hop hclosed key s hs (hwithdraws s hs)

/-- A step over which the addresses stay up to date meets no advertised session without a
refresh. -/
theorem respectsAdvertised_of_upToDate (hwf : node.WellKeyed) {op : NodeOp E}
    (hstep : node.step op = some node') (h : node.UpToDateWhileOpen)
    (h' : node'.UpToDateWhileOpen) : node.RespectsAdvertised op := by
  intro hclosed key s hs hwithdraws
  obtain ⟨hop, hrefreshes, t, hwritten, ht⟩ := written_of_withdraws hclosed hs hwithdraws
  obtain ⟨hwrote, -, hstale⟩ := step_effect hop hstep
  rw [hwritten] at hwrote
  exact advertises_eq_false_of_upToDate hwf hs hwrote (hstale hrefreshes) ht (h hclosed)
    (h' (hwrote.closed.trans hclosed))

omit [Blake3] [DecidableEq E] in
theorem Spawned.upToDate (h : node.Spawned) : node.UpToDate := by
  intro addr
  rw [h.localAddrs, List.mem_singleton]
  refine (or_iff_left ?_).symm
  rintro ⟨key, s, hs, -⟩
  exact absurd ((h.session key).symm.trans hs) (by simp)

/-- **The advertised addresses.**  In every node of a run that is open they are exactly the address
of the endpoint and those of the advertised sessions, if and only if no operation of the run ends
an advertised session by a terminal decision or signal, or replaces one by a relay dial. -/
theorem upToDate_iff {final : BrowserRuntimeNode E} (hspawned : node.Spawned)
    {ops : List (NodeOp E)} (hrun : Runs.run step node ops = some final) :
    (∀ pre post u, ops = pre ++ post → Runs.run step node pre = some u → u.closed = false →
        u.UpToDate) ↔
      Runs.Guarded step RespectsAdvertised node ops := by
  have hstart : node.UpToDateWhileOpen := fun _ => hspawned.upToDate
  have hiff := Runs.forall_prefix_iff_guarded (I := WellKeyed) (P := UpToDateWhileOpen)
    (g := RespectsAdvertised) (fun u op v hu hstep => hu.step hstep)
    (fun u op v hwf hu hstep =>
      ⟨respectsAdvertised_of_upToDate hwf hstep hu, fun hop => hu.step hop hstep⟩)
    hspawned.wellKeyed hrun
  exact hiff.trans (and_iff_right hstart)

end

section Sample

open scoped Sample
open Sample

/-- A dial over WebRTC whose setup fails. -/
def sampleFailedDial : List (NodeOp Key) :=
  [.allocateDial bob "chat" .webRtcPreferred,
    .decideWebrtcFailure (.ofDialId sampleDialId) "bootstrap failed"]

theorem upToDate_iff_sample :
    (∀ pre post u, sampleFailedDial = pre ++ post → Runs.run step sampleNode pre = some u →
        u.closed = false → u.UpToDate) ↔
      Runs.Guarded step RespectsAdvertised sampleNode sampleFailedDial :=
  upToDate_iff sampleNode_spawned rfl

/-- **A failed dial stays advertised.**  The decision fails the session, and the address of the
session remains among the advertised ones. -/
theorem failed_dial_stays_advertised :
    ∃ u s, Runs.run step sampleNode sampleFailedDial = some u ∧ u.closed = false ∧
      u.session (.ofDialId sampleDialId) = some s ∧ s.lifecycle = .relaySelected ∧
      s.channelAttachment = .failed ∧ sessionAddr s ∈ u.localAddrs ∧ ¬ u.UpToDate := by
  have hrun : ∃ u s, Runs.run step sampleNode sampleFailedDial = some u ∧ u.closed = false ∧
      u.session (.ofDialId sampleDialId) = some s ∧ s.lifecycle = .relaySelected ∧
      s.channelAttachment = .failed ∧ sessionAddr s ∈ u.localAddrs :=
    ⟨_, _, rfl, rfl, rfl, rfl, rfl, by decide⟩
  obtain ⟨u, s, hu, hopen, hs, hlifecycle, hchannel, hmem⟩ := hrun
  refine ⟨u, s, hu, hopen, hs, hlifecycle, hchannel, hmem, fun h => ?_⟩
  rcases (h _).mp hmem with hcapability | ⟨key, s', hs', hadv, haddr⟩
  · exact sessionAddr_ne_capability s _ hcapability
  · obtain rfl := key_eq_of_sessionAddr_eq (sampleNode_spawned.wellKeyed.run hu) hs' hs haddr.symm
    obtain rfl := Option.some.inj (hs.symm.trans hs')
    exact absurd hadv (by simp [advertises, hchannel])

end Sample

end BrowserRuntimeNode

end IrohWebRtc
