import IrohWebRtc.Browser.SessionRuns

/-!
# Inbound WebRTC connections of the browser node

An inbound connection names its session by the address of its selected path, but
`accept_webrtc_connection` first takes an eligible session of the same remote and ALPN, the first
in the iteration order of the table, and compares the path with that one.  So of several eligible
sessions only the first can be resolved.

The order is that of a hash map and differs from one run of the program to the next, so the order
is a parameter, and the results are for every order.  A connection that belongs to another session
than the first one is refused, although its session waits for it; it is never given to the wrong
session, because the path is compared after all.

* `acceptWebrtcConnection_exact_iff`: in every reachable node and every iteration order, a
  connection on the path of an eligible session resolves exactly that session if and only if the
  session is the first eligible one.
* `boundSessions_nodup`: over a run no session is resolved by two inbound connections.

The second needs no condition.  A session that was resolved is not eligible any more, and no later
step makes it so.
-/

namespace IrohWebRtc

open Bytes Utf8

namespace BrowserRuntimeNode

section Admission

variable {E : Type*}

/-! ## The session of a connection -/

/-- The session waits for an inbound connection of this remote and ALPN. -/
structure Eligible (connection : Connection E) (s : BrowserSessionState E) : Prop where
  role : s.role = .acceptor
  remote : s.remote = connection.remoteId
  alpn : utf8Bytes s.alpn = connection.alpn
  usesWebrtc : s.transportIntent.usesWebrtc = true
  unresolved : s.resolvedTransport = none
  channelOpen : s.channelAttachment = .open
  lifecycle : s.lifecycle = .webRtcNegotiating ∨ s.lifecycle = .applicationReady

/-- Session `dialId` comes in `order` before every other session that waits for the connection. -/
def Leading (node : BrowserRuntimeNode E) (order : List BrowserSessionKey)
    (connection : Connection E) (dialId : DialId) : Prop :=
  ∃ pre post, order = pre ++ .ofDialId dialId :: post ∧
    ∀ key ∈ pre, ∀ t, node.session key = some t → ¬ Eligible connection t

variable [DecidableEq E]

/-- On a connection for an ALPN that is a text, the search condition is eligibility. -/
theorem isEligible_iff_eligible {connection : Connection E} {alpn : String}
    (halpn : utf8Bytes alpn = connection.alpn) {s : BrowserSessionState E} :
    isEligible connection.remoteId (fromUtf8Lossy connection.alpn) s = true ↔
      Eligible connection s := by
  rw [isEligible_iff, ← halpn, fromUtf8Lossy_utf8Bytes]
  constructor
  · rintro ⟨hrole, hremote, hsame, huses, hnone, hopen, hlifecycle⟩
    exact ⟨hrole, hremote, by rw [hsame, halpn], huses, hnone, hopen, hlifecycle⟩
  · intro h
    exact ⟨h.role, h.remote, utf8Bytes_injective (h.alpn.trans halpn.symm), h.usesWebrtc,
      h.unresolved, h.channelOpen, h.lifecycle⟩

/-- The session taken is the first of `order` that satisfies the search condition. -/
theorem eligibleSession_eq_some {node : BrowserRuntimeNode E} {order : List BrowserSessionKey}
    {connection : Connection E} {s : BrowserSessionState E} :
    node.eligibleSession order connection = some s ↔
      ∃ pre key post, order = pre ++ key :: post ∧ node.session key = some s ∧
        isEligible connection.remoteId (fromUtf8Lossy connection.alpn) s = true ∧
        ∀ k ∈ pre, ∀ t, node.session k = some t →
          ¬ isEligible connection.remoteId (fromUtf8Lossy connection.alpn) t = true := by
  rw [eligibleSession, List.find?_filterMap, Option.bind_eq_some_iff]
  constructor
  · rintro ⟨key, hfind, hs⟩
    obtain ⟨hkey, pre, post, horder, hpre⟩ := List.find?_eq_some_iff_append.mp hfind
    rw [hs] at hkey
    refine ⟨pre, key, post, horder, hs, hkey, fun k hk t ht helig => ?_⟩
    have hnot := hpre k hk
    rw [ht, Option.any_some, helig] at hnot
    exact absurd hnot (by simp)
  · rintro ⟨pre, key, post, horder, hs, helig, hpre⟩
    refine ⟨key, List.find?_eq_some_iff_append.mpr ⟨?_, pre, post, horder, fun k hk => ?_⟩, hs⟩
    · rw [hs]
      exact helig
    · cases ht : node.session k with
      | none => rfl
      | some t => simpa [Option.any_some] using hpre k hk t ht

variable [EndpointKey E]

/-- The connection resolves session `s` of id `dialId`, and no other session changes. -/
structure ResolvesExactly (node : BrowserRuntimeNode E) (order : List BrowserSessionKey)
    (connection : Connection E) (dialId : DialId) (s : BrowserSessionState E) : Prop where
  result : (node.acceptWebrtcConnection order connection).1 = .ok (some (.ofDialId dialId))
  resolved : (node.acceptWebrtcConnection order connection).2.session (.ofDialId dialId) =
    some (s.resolved .webRtc)
  others : ∀ key, key ≠ .ofDialId dialId →
    (node.acceptWebrtcConnection order connection).2.session key = node.session key

/-- In one node: the path of an eligible session leads to it exactly when it is the first one. -/
theorem resolvesExactly_iff_leading {node : BrowserRuntimeNode E} (hwf : node.WellKeyed)
    (hdown : node.ClosedDown) {order : List BrowserSessionKey}
    {connection : Connection E} {dialId : DialId}
    (hpath : connection.selectedPath =
      some (.custom (WebRtcAddr.session connection.remoteId dialId).toCustomAddr))
    {s : BrowserSessionState E} (hs : node.session (.ofDialId dialId) = some s)
    (helig : Eligible connection s) :
    node.ResolvesExactly order connection dialId s ↔ node.Leading order connection dialId := by
  have hkey := hwf.sessionKey _ _ hs
  constructor
  · intro h
    rcases node.acceptWebrtcConnection_cases order connection with
      ⟨err, heq, -⟩ | ⟨s', -, hfirst, -, -, heq⟩
    · have hresult := h.result
      rw [heq] at hresult
      exact absurd hresult (by simp)
    · have hresult := h.result
      rw [heq] at hresult
      have hsame : s'.sessionKey = .ofDialId dialId :=
        Option.some.inj (Except.ok.inj hresult)
      obtain ⟨pre, key, post, horder, hs', -, hpre⟩ := eligibleSession_eq_some.mp hfirst
      have hk : key = .ofDialId dialId := (hwf.sessionKey key s' hs').symm.trans hsame
      refine ⟨pre, post, hk ▸ horder, fun k hk t ht helig' => hpre k hk t ht ?_⟩
      exact (isEligible_iff_eligible helig.alpn).mpr helig'
  · rintro ⟨pre, post, horder, hpre⟩
    have hfirst : node.eligibleSession order connection = some s := by
      refine eligibleSession_eq_some.mpr ⟨pre, _, post, horder, hs, ?_, fun k hk t ht helig' => ?_⟩
      · exact (isEligible_iff_eligible helig.alpn).mpr helig
      · exact hpre k hk t ht ((isEligible_iff_eligible helig.alpn).mp helig')
    have hdial : s.dialId = dialId :=
      BrowserSessionKey.ofDialId_injective (hwf.dialId _ _ hs).symm
    have hmatch : requireWebrtcSelectedPath connection (.session s.remote s.dialId) = .ok () := by
      rw [requireWebrtcSelectedPath_eq hpath, hdial, helig.remote, if_pos rfl]
    have hopen : ¬ node.closed = true := by
      intro hclosed
      have hlifecycle := helig.lifecycle
      rw [hdown hclosed _ _ hs] at hlifecycle
      simp at hlifecycle
    rcases node.acceptWebrtcConnection_cases order connection with
      ⟨err, -, hentry⟩ | ⟨s', -, hfirst', -, -, heq⟩
    · rw [boundEntry, if_neg hopen, hfirst, Option.bind_some, hmatch] at hentry
      exact absurd hentry (by simp)
    · obtain rfl := Option.some.inj (hfirst.symm.trans hfirst')
      have hafter : (node.acceptWebrtcConnection order connection).2.session =
          write node.session (some (.ofDialId dialId, s.resolved .webRtc)) := by
        rw [heq, hkey]
        exact node.session_insert _ _
      refine ⟨by rw [heq, hkey], ?_, fun key hne => ?_⟩
      · rw [hafter, write, Function.update_self]
      · rw [hafter, write, Function.update_of_ne hne]

/-! ## One connection a session -/

/-- The session that `accept_webrtc_connection` gives to the connection. -/
def acceptedSession (node : BrowserRuntimeNode E) (order : List BrowserSessionKey)
    (connection : Connection E) : Option BrowserSessionKey :=
  match (node.acceptWebrtcConnection order connection).1 with
  | .error _ => none
  | .ok sessionKey => sessionKey

/-- The session that an operation gives to an inbound connection. -/
def boundSession (node : BrowserRuntimeNode E) : NodeOp E → Option BrowserSessionKey
  | .webrtcConnection order connection _ | .webrtcProtocolConnection order connection =>
    node.acceptedSession order connection
  | _ => none

/-- The sessions that were given to inbound connections over a run. -/
def boundSessions [Blake3] (node : BrowserRuntimeNode E) : List (NodeOp E) → List BrowserSessionKey
  | [] => []
  | op :: ops =>
    (node.boundSession op).toList ++
      match node.step op with
      | none => []
      | some node' => node'.boundSessions ops

/-- The session is not eligible any more. -/
def Taken (node : BrowserRuntimeNode E) (key : BrowserSessionKey) : Prop :=
  ∃ s, node.session key = some s ∧ (s.resolvedTransport.isSome = true ∨ s.role = .dialer)

omit [DecidableEq E] [EndpointKey E] in
theorem resolvedTransport_of_change {s t : BrowserSessionState E} (h : SessionChange s t)
    (hs : s.resolvedTransport.isSome = true) : t.resolvedTransport.isSome = true := by
  cases h with
  | attached | opened | closed => exact hs
  | resolved => rfl
  | terminalReceived reason | terminalSent reason =>
    cases reason <;>
      simp only [BrowserSessionState.recordTerminalReceived, BrowserSessionState.recordTerminalSent,
        BrowserSessionState.applyTerminalReason] <;>
      first | exact hs | (split_ifs <;> first | rfl | exact hs)
  | closedForNode reason =>
    rw [BrowserSessionState.closeForNode]
    split_ifs <;> exact hs

variable [Blake3]

theorem taken_step {node node' : BrowserRuntimeNode E} (hwf : node.WellKeyed) {op : NodeOp E}
    (hstep : node.step op = some node') {key : BrowserSessionKey} (h : node.Taken key) :
    node'.Taken key := by
  obtain ⟨s, hs, htaken⟩ := h
  rcases step_session hwf hstep key with hsame | ⟨t, ht, horigin⟩
  · exact ⟨s, hsame.trans hs, htaken⟩
  · refine ⟨t, ht, ?_⟩
    rcases horigin.change_or_new with ⟨s', hs', hchange⟩ | ⟨_, _, _, _, _, _, -, hnew, rfl⟩
    · obtain rfl := Option.some.inj (hs'.symm.trans hs)
      rcases htaken with hresolved | hdialer
      · exact Or.inl (resolvedTransport_of_change hchange hresolved)
      · exact Or.inr (hchange.sameSession.role.trans hdialer)
    · rcases hnew with ⟨rfl, -, -⟩ | hnone
      · exact Or.inr rfl
      · exact absurd (hnone.symm.trans hs) (by simp)

omit [Blake3] in
theorem acceptedSession_eq_some {node : BrowserRuntimeNode E} (hwf : node.WellKeyed)
    {order : List BrowserSessionKey} {connection : Connection E} {key : BrowserSessionKey}
    (h : node.acceptedSession order connection = some key) :
    ∃ remote alpn s, node.session key = some s ∧ isEligible remote alpn s = true ∧
      node.boundEntry order connection = some (key, s.resolved .webRtc) := by
  rw [acceptedSession] at h
  rcases node.acceptWebrtcConnection_cases order connection with
    ⟨err, heq, -⟩ | ⟨s, -, hfirst, -, hentry, heq⟩
  · rw [heq] at h
    exact absurd h (by simp)
  · rw [heq] at h
    obtain rfl := Option.some.inj h
    exact ⟨_, _, s, (session_of_eligibleSession hwf hfirst).2, List.find?_some hfirst, hentry⟩

/-- An operation that binds a session found it eligible, and resolves it. -/
theorem boundSession_eq_some {node : BrowserRuntimeNode E} (hwf : node.WellKeyed)
    {op : NodeOp E} {key : BrowserSessionKey} (h : node.boundSession op = some key) :
    ∃ remote alpn s, node.session key = some s ∧ isEligible remote alpn s = true ∧
      node.written op = some (key, s.resolved .webRtc) := by
  cases op with
  | webrtcConnection order connection queueAccept => exact acceptedSession_eq_some hwf h
  | webrtcProtocolConnection order connection => exact acceptedSession_eq_some hwf h
  | _ => exact absurd h (by simp [boundSession])

omit [EndpointKey E] [Blake3] in
theorem not_taken_of_isEligible {node : BrowserRuntimeNode E} {key : BrowserSessionKey} {remote : E}
    {alpn : String} {s : BrowserSessionState E} (hs : node.session key = some s)
    (helig : isEligible remote alpn s = true) : ¬ node.Taken key := by
  intro htaken
  obtain ⟨s', hs', htaken⟩ := htaken
  obtain rfl := Option.some.inj (hs.symm.trans hs')
  obtain ⟨hrole, -, -, -, hnone, -, -⟩ := isEligible_iff.mp helig
  rcases htaken with hresolved | hdialer
  · rw [hnone] at hresolved
    exact absurd hresolved (by simp)
  · exact absurd (hrole.symm.trans hdialer) (by simp)

theorem taken_of_boundSession {node node' : BrowserRuntimeNode E} (hwf : node.WellKeyed)
    {op : NodeOp E} (hstep : node.step op = some node') {key : BrowserSessionKey}
    (h : node.boundSession op = some key) : node'.Taken key := by
  obtain ⟨remote, alpn, s, -, -, hwritten⟩ := boundSession_eq_some hwf h
  have hop : ∀ reason, op ≠ .closeNode reason := by
    rintro reason rfl
    exact absurd h (by simp [boundSession])
  refine ⟨s.resolved .webRtc, ?_, Or.inl rfl⟩
  rw [(step_effect hop hstep).wrote.session, hwritten, write, Function.update_self]

/-- A session that is taken is not bound again. -/
theorem not_mem_boundSessions {node : BrowserRuntimeNode E} (hwf : node.WellKeyed)
    {key : BrowserSessionKey} (h : node.Taken key) (ops : List (NodeOp E)) :
    key ∉ node.boundSessions ops := by
  induction ops generalizing node with
  | nil => exact List.not_mem_nil
  | cons op ops ih =>
    have hfirst : key ∉ (node.boundSession op).toList := by
      intro hmem
      obtain ⟨_, _, s, hs, helig, -⟩ := boundSession_eq_some hwf (Option.mem_toList.mp hmem)
      exact not_taken_of_isEligible hs helig h
    rw [boundSessions, List.mem_append, not_or]
    refine ⟨hfirst, ?_⟩
    cases hstep : node.step op with
    | none => exact List.not_mem_nil
    | some node' => exact ih (hwf.step hstep) (taken_step hwf hstep h)

/-- **No session is bound to two inbound connections.** -/
theorem boundSessions_nodup {node : BrowserRuntimeNode E} (hwf : node.WellKeyed)
    (ops : List (NodeOp E)) : (node.boundSessions ops).Nodup := by
  induction ops generalizing node with
  | nil => exact List.nodup_nil
  | cons op ops ih =>
    rw [boundSessions]
    cases hstep : node.step op with
    | none =>
      rw [List.append_nil]
      cases node.boundSession op <;> simp
    | some node' =>
      dsimp only
      cases hbound : node.boundSession op with
      | none => exact ih (hwf.step hstep)
      | some key =>
        have htaken := taken_of_boundSession hwf hstep hbound
        exact List.nodup_cons.mpr
          ⟨not_mem_boundSessions (hwf.step hstep) htaken ops, ih (hwf.step hstep)⟩

/-! ## Every reachable node -/

/-- **Inbound WebRTC admission.**  Take a reachable node, any order in which its sessions are
visited, and a connection on the path of a session that waits for it.  The connection resolves
exactly that session if and only if the session comes first among those that wait for the
connection; and over the run no session was bound to two inbound connections. -/
theorem acceptWebrtcConnection_exact_iff {node₀ node : BrowserRuntimeNode E}
    (hspawned : node₀.Spawned) {ops : List (NodeOp E)}
    (hrun : Runs.run step node₀ ops = some node) (order : List BrowserSessionKey)
    {connection : Connection E} {dialId : DialId}
    (hpath : connection.selectedPath =
      some (.custom (WebRtcAddr.session connection.remoteId dialId).toCustomAddr))
    {s : BrowserSessionState E} (hs : node.session (.ofDialId dialId) = some s)
    (helig : Eligible connection s) :
    (node.ResolvesExactly order connection dialId s ↔ node.Leading order connection dialId) ∧
      (node₀.boundSessions ops).Nodup :=
  ⟨resolvesExactly_iff_leading (hspawned.wellKeyed.run hrun) (hspawned.closedDown.run hrun) hpath
    hs helig, boundSessions_nodup hspawned.wellKeyed ops⟩

end Admission

section Sample

open scoped Sample
open Sample

def sampleSession : DialId := .replicate 16 1

def sampleSecondSession : DialId := .replicate 16 2

/-- A session that a request of `bob` creates, brought to an open data channel. -/
def sampleAccept (dialId : DialId) (generation : ℕ) : List (NodeOp Key) :=
  [.bootstrapSignal ⟨.dialRequest dialId bob alice generation "chat" .webRtcPreferred, none⟩,
    .attachTransferredChannel (.ofDialId dialId),
    .rtcLifecycle ⟨.ofDialId dialId, .dataChannelOpen, none⟩]

/-- Two such sessions. -/
def sampleAccepts : List (NodeOp Key) :=
  sampleAccept sampleSession 0 ++ sampleAccept sampleSecondSession 1

/-- A session of `sampleAccepts` at the end. -/
def sampleAccepted (dialId : DialId) (generation : ℕ) : BrowserSessionState Key :=
  { BrowserSessionState.new (.ofDialId dialId) dialId generation alice bob "chat" .acceptor
      .webRtcPreferred with
    channelAttachment := .open }

/-- A connection of `bob` on the path of session `dialId`. -/
def sampleConnection (dialId : DialId) : Connection Key where
  remoteId := bob
  alpn := utf8Bytes "chat"
  paths := [⟨.custom (WebRtcAddr.session bob dialId).toCustomAddr, true⟩]

/-- The node after `sampleAccepts`. -/
def sampleAcceptsNode : BrowserRuntimeNode Key :=
  { sampleNode with
    sessions := ((∅ : Table _ _).insert (.ofDialId sampleSession)
      (sampleAccepted sampleSession 0)).insert (.ofDialId sampleSecondSession)
      (sampleAccepted sampleSecondSession 1)
    localAddrs := [(WebRtcAddr.capability alice).toCustomAddr,
      (WebRtcAddr.session alice sampleSession).toCustomAddr,
      (WebRtcAddr.session alice sampleSecondSession).toCustomAddr] }

theorem sampleAccepts_run :
    Runs.run step sampleNode sampleAccepts = some sampleAcceptsNode := rfl

theorem sampleAccepted_eligible (dialId : DialId) (generation : ℕ) :
    Eligible (sampleConnection dialId) (sampleAccepted dialId generation) :=
  ⟨rfl, rfl, rfl, rfl, rfl, rfl, Or.inl rfl⟩

theorem acceptWebrtcConnection_exact_iff_sample :
    (sampleAcceptsNode.ResolvesExactly [.ofDialId sampleSession, .ofDialId sampleSecondSession]
          (sampleConnection sampleSession) sampleSession (sampleAccepted sampleSession 0) ↔
        sampleAcceptsNode.Leading [.ofDialId sampleSession, .ofDialId sampleSecondSession]
          (sampleConnection sampleSession) sampleSession) ∧
      (sampleNode.boundSessions sampleAccepts).Nodup :=
  acceptWebrtcConnection_exact_iff sampleNode_spawned sampleAccepts_run _ rfl (by decide)
    (sampleAccepted_eligible sampleSession 0)

/-- **The second session is refused.**  Two sessions wait for a connection of `bob`.  The connection
on the path of the one that is visited second is compared with the path of the first. -/
theorem acceptWebrtcConnection_refuses_second_session :
    Runs.run step sampleNode sampleAccepts = some sampleAcceptsNode ∧
      [BrowserSessionKey.ofDialId sampleSession, .ofDialId sampleSecondSession].Perm
        sampleAcceptsNode.sessions.keys ∧
      (sampleConnection sampleSecondSession).selectedPath =
        some (.custom (WebRtcAddr.session bob sampleSecondSession).toCustomAddr) ∧
      sampleAcceptsNode.session (.ofDialId sampleSecondSession) =
        some (sampleAccepted sampleSecondSession 1) ∧
      Eligible (sampleConnection sampleSecondSession) (sampleAccepted sampleSecondSession 1) ∧
      (sampleAcceptsNode.acceptWebrtcConnection
          [.ofDialId sampleSession, .ofDialId sampleSecondSession]
          (sampleConnection sampleSecondSession)).1 =
        .error ⟨.webRtcFailed, "selected WebRTC custom path does not match session"⟩ ∧
      ¬ sampleAcceptsNode.ResolvesExactly
          [.ofDialId sampleSession, .ofDialId sampleSecondSession]
          (sampleConnection sampleSecondSession) sampleSecondSession
          (sampleAccepted sampleSecondSession 1) := by
  have hrefused : (sampleAcceptsNode.acceptWebrtcConnection
      [.ofDialId sampleSession, .ofDialId sampleSecondSession]
      (sampleConnection sampleSecondSession)).1 =
        .error ⟨.webRtcFailed, "selected WebRTC custom path does not match session"⟩ := by
    decide
  refine ⟨rfl, by decide, rfl, by decide, sampleAccepted_eligible _ 1, hrefused, fun h => ?_⟩
  exact absurd (hrefused.symm.trans h.result) (by simp)

end Sample

end BrowserRuntimeNode

end IrohWebRtc
