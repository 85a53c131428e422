import IrohWebRtc.Browser.Admission

/-!
# Which session a bootstrap signal reaches

`browser_runtime/node/rtc.rs`, `handle_bootstrap_signal`: a signal of a peer is looked up by its
dial id, and it is accepted only when target, sender and generation are those of the session.  A
dial request makes a session instead, under a key that no session has.

A peer can send what it likes, so everything in a signal is checked against the session and
nothing in the session is taken from the signal, but for the reason of a terminal signal.  The
frame is half of the statement: an accepted signal changes the session of its dial id and no
other, and a rejected one changes nothing.

* `handleBootstrapSignal_error`: a rejected signal leaves the node as it is.
* `route_of_handleBootstrapSignal_ok`, `request_of_handleBootstrapSignal_ok`: what an accepted
  signal was checked for, and the session that an accepted request makes.
* `signalRouting`: both over every reachable node, with the frame.

The sender that is checked is the one the signal names.  That it is the peer at the other end of
the bootstrap stream is asked nowhere.
-/

namespace IrohWebRtc

open Bytes

/-- The signal asks for a new session. -/
def WebRtcSignal.isDialRequest {E : Type*} : WebRtcSignal E → Bool
  | .dialRequest .. => true
  | _ => false

namespace BrowserRuntimeNode

variable {E : Type*}

/-- The session is the one the signal is about: it is at the target, with the sender, and it has the
dial id and the generation of the signal. -/
structure Addresses (signal : WebRtcSignal E) (s : BrowserSessionState E) : Prop where
  localId : s.localId = signal.toId
  remote : s.remote = signal.fromId
  dialId : s.dialId = signal.dialId
  generation : s.generation = signal.generation

section

variable [EndpointKey E] {node node' : BrowserRuntimeNode E}

/-- An allocation that fails leaves the node as it is. -/
theorem allocateAcceptSession_error {remote : E} {alpn : String} {dialSession : DialSessionId}
    {transportIntent : BootstrapTransportIntent} {err : BrowserRuntimeError}
    (h : node.allocateAcceptSession remote alpn dialSession transportIntent = (.error err, node')) :
    node' = node := by
  unfold allocateAcceptSession at h
  split at h
  · exact (Prod.mk.inj h).2.symm
  · dsimp only at h
    split_ifs at h
    · exact (Prod.mk.inj h).2.symm
    · exact (Prod.mk.inj h).2.symm
    · cases (Prod.mk.inj h).1
    · cases (Prod.mk.inj h).1

/-- An allocation that succeeds writes an entry. -/
theorem acceptedEntry_of_allocateAcceptSession {remote : E} {alpn : String}
    {dialSession : DialSessionId} {transportIntent : BootstrapTransportIntent}
    {s : BrowserSessionState E}
    (h : node.allocateAcceptSession remote alpn dialSession transportIntent = (.ok s, node')) :
    ∃ key t, node.acceptedEntry remote alpn dialSession transportIntent = some (key, t) := by
  unfold allocateAcceptSession validateAlpn at h
  by_cases halpn : alpn.isEmpty = true
  · rw [if_pos halpn] at h
    cases (Prod.mk.inj h).1
  · rw [if_neg halpn] at h
    dsimp only at h
    by_cases hclosed : node.closed = true
    · rw [if_pos hclosed] at h
      cases (Prod.mk.inj h).1
    · rw [if_neg hclosed] at h
      by_cases hkey : (node.sessions.lookup (.ofDialId dialSession.dialId)).isSome = true
      · rw [if_pos hkey] at h
        cases (Prod.mk.inj h).1
      · exact ⟨_, _, if_neg (not_or.mpr ⟨hclosed, not_or.mpr ⟨halpn, hkey⟩⟩)⟩

variable [DecidableEq E]

/-- A rejected signal leaves the node as it is. -/
theorem handleBootstrapSignal_error {input : BrowserBootstrapSignalInput E}
    {err : BrowserRuntimeError} (h : node.handleBootstrapSignal input = (.error err, node')) :
    node' = node := by
  obtain ⟨signal, alpnOverride⟩ := input
  cases signal with
  | dialRequest dialId fromId toId generation alpn transportIntent =>
    unfold handleBootstrapSignal at h
    dsimp only at h
    split at h
    · exact (Prod.mk.inj h).2.symm
    · split at h
      · exact (Prod.mk.inj h).2.symm
      · split_ifs at h
        · exact (Prod.mk.inj h).2.symm
        · split at h
          · rename_i hallocate
            obtain ⟨-, rfl⟩ := Prod.mk.inj h
            exact allocateAcceptSession_error hallocate
          · cases (Prod.mk.inj h).1
  | terminal dialId fromId toId generation reason message =>
    change node.applyRemoteTerminalSignal _ reason = _ at h
    unfold applyRemoteTerminalSignal at h
    split_ifs at h
    · exact (Prod.mk.inj h).2.symm
    · exact (Prod.mk.inj h).2.symm
    · dsimp only at h
      split at h
      · exact (Prod.mk.inj h).2.symm
      · split_ifs at h
        · exact (Prod.mk.inj h).2.symm
        · cases (Prod.mk.inj h).1
  | offer | answer | iceCandidate | endOfCandidates =>
    unfold handleBootstrapSignal at h
    dsimp only at h
    split_ifs at h
    · exact (Prod.mk.inj h).2.symm
    · split at h
      · exact (Prod.mk.inj h).2.symm
      · split_ifs at h
        · exact (Prod.mk.inj h).2.symm
        · cases (Prod.mk.inj h).1

/-- An accepted signal that is no dial request was sent to this node by the other side of a session
of its dial id. -/
theorem route_of_handleBootstrapSignal_ok {input : BrowserBootstrapSignalInput E}
    {result : BrowserBootstrapSignalResult E}
    (h : node.handleBootstrapSignal input = (.ok result, node'))
    (hrequest : input.signal.isDialRequest = false) :
    input.signal.toId = node.endpointId ∧
      ∃ s, node.session (.ofDialId input.signal.dialId) = some s ∧
        MatchesRoute s input.signal := by
  obtain ⟨signal, alpnOverride⟩ := input
  cases signal with
  | dialRequest => cases hrequest
  | terminal dialId fromId toId generation reason message =>
    change node.applyRemoteTerminalSignal _ reason = _ at h
    unfold applyRemoteTerminalSignal at h
    split_ifs at h with hto hclosed
    · cases (Prod.mk.inj h).1
    · cases (Prod.mk.inj h).1
    · dsimp only at h
      split at h
      · cases (Prod.mk.inj h).1
      · rename_i s hs
        split_ifs at h with hroute
        · cases (Prod.mk.inj h).1
        · rw [not_or, not_not, not_not] at hroute
          exact ⟨not_not.mp hto, s, hs, hroute⟩
  | offer | answer | iceCandidate | endOfCandidates =>
    unfold handleBootstrapSignal at h
    dsimp only at h
    split_ifs at h with hto
    · cases (Prod.mk.inj h).1
    · split at h
      · cases (Prod.mk.inj h).1
      · rename_i s hsnapshot
        split_ifs at h with hroute
        · cases (Prod.mk.inj h).1
        · rw [not_or, not_not, not_not] at hroute
          refine ⟨not_not.mp hto, s, ?_, hroute⟩
          unfold sessionSnapshot at hsnapshot
          split at hsnapshot
          · cases hsnapshot
          · rename_i hs
            rw [← Except.ok.inj hsnapshot]
            exact hs

/-- An accepted dial request makes a session with its sender, under a key that was free. -/
theorem request_of_handleBootstrapSignal_ok {input : BrowserBootstrapSignalInput E}
    {result : BrowserBootstrapSignalResult E}
    (h : node.handleBootstrapSignal input = (.ok result, node'))
    (hrequest : input.signal.isDialRequest = true) :
    ∃ key s, node.signalledEntry input = some (key, s) ∧ node.session key = none ∧
      Addresses input.signal s := by
  obtain ⟨signal, alpnOverride⟩ := input
  cases signal with
  | dialRequest dialId fromId toId generation alpn transportIntent =>
    unfold handleBootstrapSignal at h
    dsimp only at h
    by_cases hto : toId = node.endpointId
    swap
    · rw [if_pos hto] at h
      cases (Prod.mk.inj h).1
    · rw [if_neg (not_not.mpr hto)] at h
      split at h
      · cases (Prod.mk.inj h).1
      · rename_i application halpn
        split_ifs at h with hregistered
        · cases (Prod.mk.inj h).1
        · split at h
          · cases (Prod.mk.inj h).1
          · rename_i s allocated hallocate
            obtain ⟨key, t, hentry⟩ := acceptedEntry_of_allocateAcceptSession hallocate
            obtain ⟨rfl, hfree, rfl⟩ := acceptedEntry_eq_some hentry
            have hwritten : node.signalledEntry ⟨.dialRequest dialId fromId toId generation alpn
                transportIntent, alpnOverride⟩ =
                node.acceptedEntry fromId application ⟨dialId, generation⟩ transportIntent := by
              simp only [signalledEntry, halpn]
              rw [if_pos ⟨hto, by simpa using hregistered⟩]
            exact ⟨_, _, hwritten.trans hentry, hfree, ⟨hto.symm, rfl, rfl, rfl⟩⟩
  | offer | answer | iceCandidate | endOfCandidates | terminal => cases hrequest

end

/-! ## Every reachable node -/

section

variable [DecidableEq E] [EndpointKey E] [Blake3] {node₀ node node' : BrowserRuntimeNode E}

/-- **Routing and frame of bootstrap signals.**  At every reachable node and for every signal:

* a rejected signal leaves every session as it is;
* an accepted signal that is no dial request is about an existing session, changes no other session,
  and changes that one only when it is terminal;
* an accepted dial request makes one new session, and leaves every other as it is. -/
theorem signalRouting (hspawned : node₀.Spawned) {ops : List (NodeOp E)}
    (hrun : Runs.run step node₀ ops = some node) {input : BrowserBootstrapSignalInput E}
    {r : BrowserRuntimeResult (BrowserBootstrapSignalResult E)}
    (h : node.handleBootstrapSignal input = (r, node')) :
    (∀ err, r = .error err → node'.session = node.session) ∧
    (∀ result, r = .ok result → input.signal.isDialRequest = false →
      ∃ key s, node.session key = some s ∧ Addresses input.signal s ∧
        (∀ key', key' ≠ key → node'.session key' = node.session key') ∧
        (input.signal.terminalReason = none → node'.session = node.session)) ∧
    (∀ result, r = .ok result → input.signal.isDialRequest = true →
      ∃ key s, node.session key = none ∧ node'.session key = some s ∧
        Addresses input.signal s ∧
          ∀ key', key' ≠ key → node'.session key' = node.session key') := by
  have hwf := hspawned.wellKeyed.run hrun
  have hwrote := (node.handleBootstrapSignal_effect input).1.session
  rw [h] at hwrote
  refine ⟨?_, ?_, ?_⟩
  · rintro err rfl
    rw [handleBootstrapSignal_error h]
  · rintro result rfl hrequest
    obtain ⟨hto, s, hs, hroute⟩ := route_of_handleBootstrapSignal_ok h hrequest
    have hdialId := BrowserSessionKey.ofDialId_injective (hwf.dialId _ s hs)
    refine ⟨_, s, hs, ⟨(hwf.localId _ s hs).trans hto.symm, hroute.1, hdialId.symm, hroute.2⟩,
      fun key' hne => ?_, fun hreason => ?_⟩
    · rw [hwrote]
      cases hentry : node.signalledEntry input with
      | none => rfl
      | some entry =>
        obtain ⟨key, t⟩ := entry
        -- only a terminal signal writes, and it writes under its dial id
        cases hsignal : input.signal with
        | terminal dialId fromId toId generation reason message =>
          rw [signalledEntry, hsignal] at hentry
          obtain ⟨-, hkey, -⟩ := terminatedEntry_eq_some hentry
          rw [hsignal, ← hkey] at hne
          exact Function.update_of_ne hne _ _
        | dialRequest => rw [hsignal] at hrequest; cases hrequest
        | offer | answer | iceCandidate | endOfCandidates =>
          rw [signalledEntry, hsignal] at hentry
          cases hentry
    · have hentry : node.signalledEntry input = none := by
        cases hsignal : input.signal with
        | terminal => rw [hsignal] at hreason; cases hreason
        | dialRequest => rw [hsignal] at hrequest; cases hrequest
        | offer | answer | iceCandidate | endOfCandidates => rw [signalledEntry, hsignal]
      rw [hwrote, hentry, write]
  · rintro result rfl hrequest
    obtain ⟨key, s, hentry, hfree, haddresses⟩ := request_of_handleBootstrapSignal_ok h hrequest
    rw [hwrote, hentry]
    exact ⟨key, s, hfree, Function.update_self _ _ _, haddresses,
      fun key' hne => Function.update_of_ne hne _ _⟩

end

section Sample

open scoped Sample
open Sample

/-- `bob` ends one of two sessions. -/
def sampleTerminal : BrowserBootstrapSignalInput Key :=
  ⟨.terminal sampleSession bob alice 0 .closed none, none⟩

theorem signalRouting_sample :
    ∃ result node', sampleAcceptsNode.handleBootstrapSignal sampleTerminal = (.ok result, node') ∧
      ∃ key s, sampleAcceptsNode.session key = some s ∧ Addresses sampleTerminal.signal s ∧
        (∀ key', key' ≠ key → node'.session key' = sampleAcceptsNode.session key') ∧
        (sampleTerminal.signal.terminalReason = none →
          node'.session = sampleAcceptsNode.session) := by
  have hok : ∃ result node', sampleAcceptsNode.handleBootstrapSignal sampleTerminal =
      (.ok result, node') := ⟨_, _, rfl⟩
  obtain ⟨result, node', hok⟩ := hok
  have hrouting := signalRouting sampleNode_spawned sampleAccepts_run hok
  exact ⟨result, node', hok, hrouting.2.1 result rfl rfl⟩

end Sample

end BrowserRuntimeNode

end IrohWebRtc
