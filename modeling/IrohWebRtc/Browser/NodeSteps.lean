import IrohWebRtc.Browser.NodeConnections
import Mathlib.Logic.Function.Basic

/-!
# What a step of the browser node does to its sessions

Many operations write sessions, and several invariants are to be proved of these.  To go through
the operations once for each invariant would be to read the same code many times.  This module
reads it once.

Every operation but the closing of the node writes at most one entry of the session table.
`written` says which entry an operation writes and with what, read off the node and the operation;
`step_effect` says that a step writes exactly that, and what becomes of the advertised addresses.
`SessionChange` then lists the ways in which the session of an entry can change, and
`step_session` is the inversion from which the invariants of the following modules are proved: a
session after a step is one from before, or it comes about by one of these ways, with everything
that the operation has checked.

## Two views of a write

`written` is computed, so that it can be compared with the source line by line: for each operation
the key it looks up, the conditions under which it returns before it writes, and the function of
`BrowserSessionState` that it applies.  `SessionChange` is a relation, and forgets which operation
it was where that does not matter.  Invariants are proved from the second, and the second from the
first.

## The addresses

An operation either computes the advertised addresses again after its write (`refreshes`), or it
leaves them alone.  `Follows` says of the first that they are those of the new table.  That the
second is a mistake for some operations is the matter of `Browser.AdvertisedAddrs`; here it is
only said which operations are of which kind.

The closing of the node ends all sessions at once and is treated apart, in `Browser.NodeClose`.
-/

namespace IrohWebRtc

open Bytes Utf8

/-- A session that the signal creates is advertised at once. -/
def BrowserBootstrapSignalInput.refreshes {E : Type*} (input : BrowserBootstrapSignalInput E) :
    Bool :=
  match input.signal with
  | .dialRequest _ _ _ _ _ transportIntent => transportIntent.usesWebrtc
  | _ => false

namespace BrowserRuntimeNode

variable {E : Type*}

/-- The session of a key. -/
def session (node : BrowserRuntimeNode E) (sessionKey : BrowserSessionKey) :
    Option (BrowserSessionState E) :=
  node.sessions.lookup sessionKey

/-- A session table after an entry was written. -/
def write (sessions : BrowserSessionKey → Option (BrowserSessionState E)) :
    Option (BrowserSessionKey × BrowserSessionState E) →
      BrowserSessionKey → Option (BrowserSessionState E)
  | none => sessions
  | some (sessionKey, session) => Function.update sessions sessionKey (some session)

theorem session_insert (node : BrowserRuntimeNode E) (sessionKey : BrowserSessionKey)
    (session : BrowserSessionState E) :
    { node with sessions := node.sessions.insert sessionKey session }.session =
      write node.session (some (sessionKey, session)) := by
  funext key
  rw [BrowserRuntimeNode.session, Table.lookup_insert_eq, write, Function.update_apply]
  rfl

theorem session_modify (node : BrowserRuntimeNode E) (sessionKey : BrowserSessionKey)
    (update : BrowserSessionState E → BrowserSessionState E) :
    { node with sessions := node.sessions.modify sessionKey update }.session =
      write node.session ((node.session sessionKey).bind fun session =>
        (some (update session)).map fun session => (sessionKey, session)) := by
  funext key
  rw [BrowserRuntimeNode.session, Table.lookup_modify]
  cases h : node.session sessionKey with
  | none =>
    rw [BrowserRuntimeNode.session] at h
    split_ifs with hkey
    · rw [h, hkey]
      exact h.symm
    · rfl
  | some s =>
    rw [BrowserRuntimeNode.session] at h
    rw [h, Option.bind_some, Option.map_some, Option.map_some, write, Function.update_apply]
    rfl

/-- Writing what is there changes nothing. -/
theorem write_self {sessions : BrowserSessionKey → Option (BrowserSessionState E)}
    {sessionKey : BrowserSessionKey} {session : BrowserSessionState E}
    (h : sessions sessionKey = some session) :
    write sessions (some (sessionKey, session)) = sessions := by
  rw [write, ← h, Function.update_eq_self]

/-! ## The advertised addresses -/

section Addresses

variable [EndpointKey E]

/-- The advertised addresses are those of the endpoint itself and of the sessions it advertises. -/
def UpToDate (node : BrowserRuntimeNode E) : Prop :=
  ∀ addr, addr ∈ node.localAddrs ↔
    addr = (WebRtcAddr.capability node.endpointId).toCustomAddr ∨
      ∃ sessionKey session, node.session sessionKey = some session ∧
        advertises session = true ∧ addr = sessionAddr session

theorem mem_destutter'_ne {α : Type*} [DecidableEq α] {a x : α} {l : List α} :
    x ∈ l.destutter' (· ≠ ·) a ↔ x = a ∨ x ∈ l := by
  induction l generalizing a with
  | nil => simp
  | cons b l ih =>
    by_cases h : a = b
    · subst h
      rw [List.destutter'_cons_neg _ (not_not.mpr rfl), ih]
      simp
    · rw [List.destutter'_cons_pos _ h, List.mem_cons, ih, List.mem_cons]

theorem mem_destutter_ne {α : Type*} [DecidableEq α] {x : α} {l : List α} :
    x ∈ l.destutter (· ≠ ·) ↔ x ∈ l := by
  cases l with
  | nil => simp
  | cons a l => rw [List.destutter_cons', mem_destutter'_ne, List.mem_cons]

theorem mem_webrtcTransportAddrs {node : BrowserRuntimeNode E} {addr : CustomAddr} :
    addr ∈ node.webrtcTransportAddrs ↔
      addr = (WebRtcAddr.capability node.endpointId).toCustomAddr ∨
        ∃ sessionKey session, node.session sessionKey = some session ∧
          advertises session = true ∧ addr = sessionAddr session := by
  rw [webrtcTransportAddrs, mem_destutter_ne, List.mem_insertionSort, List.mem_cons,
    List.mem_filterMap]
  refine or_congr_right ?_
  constructor
  · rintro ⟨session, hmem, haddr⟩
    obtain ⟨sessionKey, hkey⟩ := Table.mem_values.mp hmem
    split_ifs at haddr with hadv
    exact ⟨sessionKey, session, hkey, hadv, (Option.some.inj haddr).symm⟩
  · rintro ⟨sessionKey, session, hkey, hadv, rfl⟩
    exact ⟨session, Table.mem_values.mpr ⟨sessionKey, hkey⟩, by rw [if_pos hadv]⟩

/-- Refreshing brings the addresses up to date. -/
theorem upToDate_refresh (node : BrowserRuntimeNode E) :
    node.refreshWebrtcTransportAddrs.UpToDate :=
  fun _ => mem_webrtcTransportAddrs

end Addresses

/-! ## What the functions do -/

/-- The nodes have the same sessions and advertise the same addresses. -/
structure SameSessions (u v : BrowserRuntimeNode E) : Prop where
  session : v.session = u.session
  localAddrs : v.localAddrs = u.localAddrs
  endpointId : v.endpointId = u.endpointId
  closed : v.closed = u.closed

theorem SameSessions.refl (node : BrowserRuntimeNode E) : SameSessions node node :=
  ⟨rfl, rfl, rfl, rfl⟩

theorem SameSessions.trans {u v w : BrowserRuntimeNode E} (h : SameSessions u v)
    (h' : SameSessions v w) : SameSessions u w :=
  ⟨h'.session.trans h.session, h'.localAddrs.trans h.localAddrs,
    h'.endpointId.trans h.endpointId, h'.closed.trans h.closed⟩

/-- One entry of the session table was written, and nothing else of the node that the sessions
depend on. -/
structure Wrote (u : BrowserRuntimeNode E)
    (entry : Option (BrowserSessionKey × BrowserSessionState E)) (v : BrowserRuntimeNode E) :
    Prop where
  session : v.session = write u.session entry
  endpointId : v.endpointId = u.endpointId
  closed : v.closed = u.closed

theorem SameSessions.wrote {u v : BrowserRuntimeNode E} (h : SameSessions u v) :
    Wrote u none v :=
  ⟨h.session, h.endpointId, h.closed⟩

theorem Wrote.trans_same {u v w : BrowserRuntimeNode E}
    {entry : Option (BrowserSessionKey × BrowserSessionState E)} (h : Wrote u entry v)
    (hs : SameSessions v w) : Wrote u entry w :=
  ⟨hs.session.trans h.session, hs.endpointId.trans h.endpointId, hs.closed.trans h.closed⟩

/-- The addresses follow the table: they are up to date, or nothing was written and they are as
before. -/
def Follows [EndpointKey E] (u : BrowserRuntimeNode E)
    (entry : Option (BrowserSessionKey × BrowserSessionState E)) (v : BrowserRuntimeNode E) :
    Prop :=
  v.UpToDate ∨ entry = none ∧ v.localAddrs = u.localAddrs

theorem UpToDate.congr [EndpointKey E] {u v : BrowserRuntimeNode E} (h : u.UpToDate)
    (hs : SameSessions u v) : v.UpToDate := by
  intro addr
  rw [hs.localAddrs, hs.endpointId, hs.session]
  exact h addr

theorem Follows.trans_same [EndpointKey E] {u v w : BrowserRuntimeNode E}
    {entry : Option (BrowserSessionKey × BrowserSessionState E)} (h : Follows u entry v)
    (hs : SameSessions v w) : Follows u entry w := by
  rcases h with h | ⟨hnone, haddrs⟩
  · exact Or.inl (h.congr hs)
  · exact Or.inr ⟨hnone, hs.localAddrs.trans haddrs⟩

/-- The entry that an update of one session writes. -/
def entry (node : BrowserRuntimeNode E) (sessionKey : BrowserSessionKey)
    (update : BrowserSessionState E → Option (BrowserSessionState E)) :
    Option (BrowserSessionKey × BrowserSessionState E) :=
  if node.closed then none
  else (node.session sessionKey).bind fun session =>
    (update session).map fun session => (sessionKey, session)

theorem entry_eq_some {node : BrowserRuntimeNode E} {sessionKey key : BrowserSessionKey}
    {update : BrowserSessionState E → Option (BrowserSessionState E)}
    {t : BrowserSessionState E} :
    node.entry sessionKey update = some (key, t) ↔
      node.closed = false ∧ key = sessionKey ∧
        ∃ s, node.session sessionKey = some s ∧ update s = some t := by
  rw [entry]
  cases hclosed : node.closed with
  | true => simp
  | false =>
    simp only [Bool.false_eq_true, if_false, Option.bind_eq_some_iff, Option.map_eq_some_iff,
      Prod.mk.injEq, true_and]
    constructor
    · rintro ⟨s, hs, t', ht, rfl, rfl⟩
      exact ⟨rfl, s, hs, ht⟩
    · rintro ⟨rfl, s, hs, ht⟩
      exact ⟨s, hs, t, ht, rfl, rfl⟩

/-- The session that `allocate_dial` creates, with its key. -/
def dialedEntry [DecidableEq E] [EndpointKey E] [Blake3] (node : BrowserRuntimeNode E) (remote : E)
    (alpn : String) (transportIntent : BootstrapTransportIntent) :
    Option (BrowserSessionKey × BrowserSessionState E) :=
  if node.closed ∨ alpn.isEmpty then none
  else (node.dialIds.next remote).map fun (session, _) =>
    (.ofDialId session.dialId, .new (.ofDialId session.dialId) session.dialId session.generation
      node.endpointId remote alpn .dialer transportIntent)

/-- The session that `allocate_accept_session` creates, with its key. -/
def acceptedEntry (node : BrowserRuntimeNode E) (remote : E) (alpn : String)
    (dialSession : DialSessionId) (transportIntent : BootstrapTransportIntent) :
    Option (BrowserSessionKey × BrowserSessionState E) :=
  if node.closed ∨ alpn.isEmpty ∨ (node.session (.ofDialId dialSession.dialId)).isSome then none
  else
    some (.ofDialId dialSession.dialId, .new (.ofDialId dialSession.dialId) dialSession.dialId
      dialSession.generation node.endpointId remote alpn .acceptor transportIntent)

/-- The terminal signal is the one of the other side of the session. -/
def MatchesRoute (session : BrowserSessionState E) (signal : WebRtcSignal E) : Prop :=
  session.remote = signal.fromId ∧ session.generation = signal.generation

instance [DecidableEq E] (session : BrowserSessionState E) (signal : WebRtcSignal E) :
    Decidable (MatchesRoute session signal) :=
  inferInstanceAs (Decidable (_ = _ ∧ _ = _))

/-- The session that a terminal signal of the other side ends, with its key. -/
def terminatedEntry [DecidableEq E] (node : BrowserRuntimeNode E) (signal : WebRtcSignal E)
    (reason : WebRtcTerminalReason) : Option (BrowserSessionKey × BrowserSessionState E) :=
  if signal.toId = node.endpointId then
    node.entry (.ofDialId signal.dialId) fun s =>
      if MatchesRoute s signal then some (s.recordTerminalReceived reason) else none
  else none

/-- The session that a bootstrap signal creates or ends, with its key. -/
def signalledEntry [DecidableEq E] (node : BrowserRuntimeNode E)
    (input : BrowserBootstrapSignalInput E) :
    Option (BrowserSessionKey × BrowserSessionState E) :=
  match input.signal with
  | .dialRequest dialId fromId toId generation alpn transportIntent =>
    match input.alpn.or (if alpn.isEmpty then none else some alpn) with
    | none => none
    | some alpn =>
      if toId = node.endpointId ∧ node.isApplicationAlpnRegistered alpn then
        node.acceptedEntry fromId alpn ⟨dialId, generation⟩ transportIntent
      else none
  | .terminal _ _ _ _ reason _ => node.terminatedEntry input.signal reason
  | _ => none

theorem toOption_eq_some {α : Type*} {result : BrowserRuntimeResult α} {a : α} :
    result.toOption = some a ↔ result = .ok a := by
  cases result with
  | error err => simp [Except.toOption]
  | ok b => simp [Except.toOption]

section Functions

variable [EndpointKey E] {node : BrowserRuntimeNode E}

theorem updateSession_effect (node : BrowserRuntimeNode E) (sessionKey : BrowserSessionKey)
    (update : BrowserSessionState E → BrowserRuntimeResult (BrowserSessionState E)) :
    Wrote node (node.entry sessionKey fun s => (update s).toOption)
        (node.updateSession sessionKey update).2 ∧
      Follows node (node.entry sessionKey fun s => (update s).toOption)
        (node.updateSession sessionKey update).2 := by
  have hsame := SameSessions.refl node
  rw [updateSession, entry]
  split_ifs with hclosed
  · exact ⟨hsame.wrote, Or.inr ⟨rfl, rfl⟩⟩
  · rw [session]
    cases hlookup : node.sessions.lookup sessionKey with
    | none => exact ⟨hsame.wrote, Or.inr ⟨rfl, rfl⟩⟩
    | some s =>
      cases hupdate : update s with
      | error err =>
        simp only [Option.bind_some, hupdate, Except.toOption]
        exact ⟨hsame.wrote, Or.inr ⟨rfl, rfl⟩⟩
      | ok t =>
        simp only [Option.bind_some, hupdate, Except.toOption, Option.map_some]
        exact ⟨⟨node.session_insert sessionKey t, rfl, rfl⟩, Or.inl (upToDate_refresh _)⟩

omit [EndpointKey E] in
/-- A terminal decision writes its session, and leaves the addresses as they are. -/
theorem emitTerminalDecision_effect (node : BrowserRuntimeNode E)
    (sessionKey : BrowserSessionKey) (reasonOverride : Option WebRtcTerminalReason)
    (message : String) :
    Wrote node
        (node.entry sessionKey fun s =>
          some (s.recordTerminalSent (reasonOverride.getD s.failureReason)).2)
        (node.emitTerminalDecision sessionKey reasonOverride message).2 ∧
      (node.emitTerminalDecision sessionKey reasonOverride message).2.localAddrs =
        node.localAddrs := by
  have hsame := SameSessions.refl node
  rw [emitTerminalDecision, entry]
  split_ifs with hclosed
  · exact ⟨hsame.wrote, rfl⟩
  · rw [session]
    cases hlookup : node.sessions.lookup sessionKey with
    | none => exact ⟨hsame.wrote, rfl⟩
    | some s => exact ⟨⟨node.session_insert sessionKey _, rfl, rfl⟩, rfl⟩

omit [EndpointKey E] in
theorem lifecycleResultOfDecision_snd (sessionKey : BrowserSessionKey)
    (decision : BrowserRuntimeResult (BrowserTerminalDecision E) × BrowserRuntimeNode E) :
    (lifecycleResultOfDecision sessionKey decision).2 = decision.2 := by
  obtain ⟨result, node⟩ := decision
  cases result <;> rfl

/-- A session is added to a node, and the addresses are refreshed if it uses WebRTC. -/
theorem addSession_effect {added : BrowserRuntimeNode E} {key : BrowserSessionKey}
    {s : BrowserSessionState E} (hsessions : added.sessions = node.sessions.insert key s)
    (hendpoint : added.endpointId = node.endpointId) (hclosed : added.closed = node.closed)
    (haddrs : added.localAddrs = node.localAddrs) (usesWebrtc : Bool) :
    Wrote node (some (key, s))
        (if usesWebrtc then added.refreshWebrtcTransportAddrs else added) ∧
      (usesWebrtc = true → Follows node (some (key, s))
        (if usesWebrtc then added.refreshWebrtcTransportAddrs else added)) ∧
      (usesWebrtc = false →
        (if usesWebrtc then added.refreshWebrtcTransportAddrs else added).localAddrs =
          node.localAddrs) := by
  have hsession : added.session = write node.session (some (key, s)) := by
    rw [← node.session_insert key s]
    funext key'
    exact congrArg (AList.lookup key') hsessions
  cases usesWebrtc with
  | true =>
    refine ⟨⟨hsession, hendpoint, hclosed⟩, fun _ => Or.inl ?_, fun h => absurd h (by simp)⟩
    exact upToDate_refresh added
  | false => exact ⟨⟨hsession, hendpoint, hclosed⟩, fun h => absurd h (by simp), fun _ => haddrs⟩

theorem allocateDial_effect [DecidableEq E] [Blake3] {remote : E} {alpn : String}
    {transportIntent : BootstrapTransportIntent}
    {result : BrowserRuntimeResult (BrowserDialAllocation E)} {node' : BrowserRuntimeNode E}
    (h : node.allocateDial remote alpn transportIntent = some (result, node')) :
    Wrote node (node.dialedEntry remote alpn transportIntent) node' ∧
      (transportIntent.usesWebrtc = true →
        Follows node (node.dialedEntry remote alpn transportIntent) node') ∧
      (transportIntent.usesWebrtc = false → node'.localAddrs = node.localAddrs) := by
  have hsame := SameSessions.refl node
  rw [allocateDial, validateAlpn] at h
  rw [dialedEntry]
  by_cases halpn : alpn.isEmpty = true
  · rw [if_pos halpn] at h
    obtain ⟨-, rfl⟩ := Prod.mk.inj (Option.some.inj h)
    rw [if_pos (Or.inr halpn)]
    exact ⟨hsame.wrote, fun _ => Or.inr ⟨rfl, rfl⟩, fun _ => rfl⟩
  · rw [if_neg halpn] at h
    dsimp only at h
    by_cases hclosed : node.closed = true
    · rw [if_pos hclosed] at h
      obtain ⟨-, rfl⟩ := Prod.mk.inj (Option.some.inj h)
      rw [if_pos (Or.inl hclosed)]
      exact ⟨hsame.wrote, fun _ => Or.inr ⟨rfl, rfl⟩, fun _ => rfl⟩
    · rw [if_neg hclosed] at h
      obtain ⟨⟨session, dialIds⟩, hnext, heq⟩ := Option.map_eq_some_iff.mp h
      obtain ⟨-, rfl⟩ := Prod.mk.inj heq
      rw [if_neg (not_or.mpr ⟨hclosed, halpn⟩), hnext, Option.map_some]
      refine addSession_effect ?_ ?_ ?_ ?_ transportIntent.usesWebrtc <;> rfl

theorem allocateAcceptSession_effect (node : BrowserRuntimeNode E) (remote : E) (alpn : String)
    (dialSession : DialSessionId) (transportIntent : BootstrapTransportIntent) :
    Wrote node (node.acceptedEntry remote alpn dialSession transportIntent)
        (node.allocateAcceptSession remote alpn dialSession transportIntent).2 ∧
      (transportIntent.usesWebrtc = true →
        Follows node (node.acceptedEntry remote alpn dialSession transportIntent)
          (node.allocateAcceptSession remote alpn dialSession transportIntent).2) ∧
      (transportIntent.usesWebrtc = false →
        (node.allocateAcceptSession remote alpn dialSession transportIntent).2.localAddrs =
          node.localAddrs) := by
  have hsame := SameSessions.refl node
  rw [allocateAcceptSession, validateAlpn, acceptedEntry]
  by_cases halpn : alpn.isEmpty = true
  · rw [if_pos halpn, if_pos (Or.inr (Or.inl halpn))]
    exact ⟨hsame.wrote, fun _ => Or.inr ⟨rfl, rfl⟩, fun _ => rfl⟩
  · rw [if_neg halpn]
    dsimp only
    by_cases hclosed : node.closed = true
    · rw [if_pos hclosed, if_pos (Or.inl hclosed)]
      exact ⟨hsame.wrote, fun _ => Or.inr ⟨rfl, rfl⟩, fun _ => rfl⟩
    · by_cases hkey : (node.session (.ofDialId dialSession.dialId)).isSome = true
      · rw [if_neg hclosed, if_pos (Or.inr (Or.inr hkey))]
        rw [session] at hkey
        rw [if_pos hkey]
        exact ⟨hsame.wrote, fun _ => Or.inr ⟨rfl, rfl⟩, fun _ => rfl⟩
      · rw [if_neg hclosed, if_neg (not_or.mpr ⟨hclosed, not_or.mpr ⟨halpn, hkey⟩⟩)]
        rw [session] at hkey
        rw [if_neg hkey]
        refine addSession_effect ?_ ?_ ?_ ?_ transportIntent.usesWebrtc <;> rfl

omit [EndpointKey E] in
theorem applyRemoteTerminalSignal_effect [DecidableEq E] (node : BrowserRuntimeNode E)
    (signal : WebRtcSignal E) (reason : WebRtcTerminalReason) :
    Wrote node (node.terminatedEntry signal reason)
        (node.applyRemoteTerminalSignal signal reason).2 ∧
      (node.applyRemoteTerminalSignal signal reason).2.localAddrs = node.localAddrs := by
  have hsame := SameSessions.refl node
  rw [applyRemoteTerminalSignal, terminatedEntry]
  by_cases hto : signal.toId = node.endpointId
  · rw [if_neg (not_not.mpr hto), if_pos hto, entry]
    by_cases hclosed : node.closed = true
    · rw [if_pos hclosed, if_pos hclosed]
      exact ⟨hsame.wrote, rfl⟩
    · rw [if_neg hclosed, if_neg hclosed, session]
      dsimp only
      cases hlookup : node.sessions.lookup (.ofDialId signal.dialId) with
      | none => exact ⟨hsame.wrote, rfl⟩
      | some s =>
        rw [Option.bind_some]
        dsimp only
        by_cases hroute : MatchesRoute s signal
        · have hmatch : ¬ (s.remote ≠ signal.fromId ∨ s.generation ≠ signal.generation) := by
            rw [not_or, not_not, not_not]
            exact hroute
          rw [if_neg hmatch, if_pos hroute]
          exact ⟨⟨node.session_insert _ _, rfl, rfl⟩, rfl⟩
        · rw [if_pos (not_and_or.mp hroute), if_neg hroute]
          exact ⟨hsame.wrote, rfl⟩
  · rw [if_pos hto, if_neg hto]
    exact ⟨hsame.wrote, rfl⟩

/-- A dial request for a WebRTC session creates the session and refreshes the addresses; the other
signals leave the addresses as they are. -/
theorem handleBootstrapSignal_effect [DecidableEq E] (node : BrowserRuntimeNode E)
    (input : BrowserBootstrapSignalInput E) :
    Wrote node (node.signalledEntry input) (node.handleBootstrapSignal input).2 ∧
      (input.refreshes = true →
        Follows node (node.signalledEntry input) (node.handleBootstrapSignal input).2) ∧
      (input.refreshes = false →
        (node.handleBootstrapSignal input).2.localAddrs = node.localAddrs) := by
  have hsame := SameSessions.refl node
  obtain ⟨signal, alpnOverride⟩ := input
  cases signal with
  | dialRequest dialId fromId toId generation alpn transportIntent =>
    simp only [handleBootstrapSignal, signalledEntry, BrowserBootstrapSignalInput.refreshes]
    cases halpn : alpnOverride.or (if alpn.isEmpty then none else some alpn) with
    | none =>
      dsimp only
      split_ifs <;> exact ⟨hsame.wrote, fun _ => Or.inr ⟨rfl, rfl⟩, fun _ => rfl⟩
    | some alpn =>
      dsimp only
      by_cases hto : toId = node.endpointId
      · rw [if_neg (not_not.mpr hto)]
        by_cases hreg : node.isApplicationAlpnRegistered alpn = true
        · have hregistered : ¬ (!node.isApplicationAlpnRegistered alpn) = true := by simp [hreg]
          rw [if_pos (show toId = node.endpointId ∧ _ from ⟨hto, hreg⟩), if_neg hregistered]
          have heffect :=
            node.allocateAcceptSession_effect fromId alpn ⟨dialId, generation⟩ transportIntent
          rcases hresult : node.allocateAcceptSession fromId alpn ⟨dialId, generation⟩
            transportIntent with ⟨result, node'⟩
          rw [hresult] at heffect
          cases result <;> exact heffect
        · rw [if_neg (show ¬ (toId = node.endpointId ∧ _) from fun h => hreg h.2),
            if_pos (by simp [hreg])]
          exact ⟨hsame.wrote, fun _ => Or.inr ⟨rfl, rfl⟩, fun _ => rfl⟩
      · rw [if_pos hto, if_neg (show ¬ (toId = node.endpointId ∧ _) from fun h => hto h.1)]
        exact ⟨hsame.wrote, fun _ => Or.inr ⟨rfl, rfl⟩, fun _ => rfl⟩
  | terminal dialId fromId toId generation reason message =>
    have heffect := node.applyRemoteTerminalSignal_effect
      (.terminal dialId fromId toId generation reason message) reason
    exact ⟨heffect.1, fun h => absurd h (by simp [BrowserBootstrapSignalInput.refreshes]),
      fun _ => heffect.2⟩
  | offer | answer | iceCandidate | endOfCandidates =>
    simp only [handleBootstrapSignal, signalledEntry, BrowserBootstrapSignalInput.refreshes]
    split_ifs with hto
    · exact ⟨hsame.wrote, fun _ => Or.inr ⟨rfl, rfl⟩, fun _ => rfl⟩
    · cases node.sessionSnapshot _ with
      | error err => exact ⟨hsame.wrote, fun _ => Or.inr ⟨rfl, rfl⟩, fun _ => rfl⟩
      | ok s =>
        dsimp only
        split_ifs <;> exact ⟨hsame.wrote, fun _ => Or.inr ⟨rfl, rfl⟩, fun _ => rfl⟩

end Functions

/-! ## Admission -/

section Admission

variable [DecidableEq E] [EndpointKey E] {node : BrowserRuntimeNode E}

/-- The session that `accept_webrtc_connection` takes: the first eligible one. -/
def eligibleSession (node : BrowserRuntimeNode E) (order : List BrowserSessionKey)
    (connection : Connection E) : Option (BrowserSessionState E) :=
  (order.filterMap node.session).find?
    (isEligible connection.remoteId (fromUtf8Lossy connection.alpn))

/-- The session that an inbound WebRTC connection resolves, with its key. -/
def boundEntry (node : BrowserRuntimeNode E) (order : List BrowserSessionKey)
    (connection : Connection E) : Option (BrowserSessionKey × BrowserSessionState E) :=
  if node.closed then none
  else (node.eligibleSession order connection).bind fun s =>
    match requireWebrtcSelectedPath connection (.session s.remote s.dialId) with
    | .error _ => none
    | .ok () => some (s.sessionKey, s.resolved .webRtc)

omit [EndpointKey E] in
theorem isEligible_iff {remote : E} {alpn : String} {s : BrowserSessionState E} :
    isEligible remote alpn s = true ↔
      s.role = .acceptor ∧ s.remote = remote ∧ s.alpn = alpn ∧
        s.transportIntent.usesWebrtc = true ∧ s.resolvedTransport = none ∧
        s.channelAttachment = .open ∧
        (s.lifecycle = .webRtcNegotiating ∨ s.lifecycle = .applicationReady) := by
  simp [isEligible, and_assoc]

omit [EndpointKey E] in
theorem canResolve_of_isEligible {remote : E} {alpn : String} {s : BrowserSessionState E}
    (h : isEligible remote alpn s = true) : s.CanResolve .webRtc := by
  obtain ⟨-, -, -, huses, -, hopen, -⟩ := isEligible_iff.mp h
  refine ⟨fun hrelay => ?_, hopen⟩
  rw [hrelay] at huses
  exact absurd huses (by decide)

/-- An inbound WebRTC connection is refused, or it resolves the first eligible session. -/
theorem acceptWebrtcConnection_cases (node : BrowserRuntimeNode E)
    (order : List BrowserSessionKey) (connection : Connection E) :
    (∃ err, node.acceptWebrtcConnection order connection = (.error err, node) ∧
        node.boundEntry order connection = none) ∨
      ∃ s, node.closed = false ∧ node.eligibleSession order connection = some s ∧
        requireWebrtcSelectedPath connection (.session s.remote s.dialId) = .ok () ∧
        node.boundEntry order connection = some (s.sessionKey, s.resolved .webRtc) ∧
        node.acceptWebrtcConnection order connection =
          (.ok (some s.sessionKey),
            { node with sessions := node.sessions.insert s.sessionKey (s.resolved .webRtc)
              }.refreshWebrtcTransportAddrs) := by
  rw [acceptWebrtcConnection, boundEntry]
  by_cases hclosed : node.closed = true
  · rw [if_pos hclosed, if_pos hclosed]
    exact Or.inl ⟨_, rfl, rfl⟩
  · rw [if_neg hclosed, if_neg hclosed]
    have hfind : (order.filterMap node.sessions.lookup).find?
        (isEligible connection.remoteId (fromUtf8Lossy connection.alpn)) =
          node.eligibleSession order connection := rfl
    rw [hfind]
    cases helig : node.eligibleSession order connection with
    | none => exact Or.inl ⟨_, rfl, rfl⟩
    | some s =>
      dsimp only [Option.bind_some]
      cases hpath : requireWebrtcSelectedPath connection (.session s.remote s.dialId) with
      | error err => exact Or.inl ⟨_, rfl, rfl⟩
      | ok value =>
        have hresolve : s.resolveTransport .webRtc = .ok (s.resolved .webRtc) :=
          BrowserSessionState.resolveTransport_eq_ok.mpr
            ⟨canResolve_of_isEligible (List.find?_some helig), rfl⟩
        dsimp only
        rw [hresolve]
        exact Or.inr ⟨s, by simpa using hclosed, rfl, hpath, rfl, rfl⟩

omit [DecidableEq E] [EndpointKey E] in
theorem pushAccepted_same (node : BrowserRuntimeNode E)
    (connection : BrowserAcceptedConnection E) :
    SameSessions node (node.pushAccepted connection).2 ∧
      (node.pushAccepted connection).2.connections = node.connections := by
  rw [pushAccepted]
  cases node.accepts.lookup connection.alpn with
  | none => exact ⟨.refl node, rfl⟩
  | some registration => exact ⟨⟨rfl, rfl, rfl, rfl⟩, rfl⟩

/-- An admission fails in its checks or at the accept queue, or it records the connection. -/
theorem admit_cases {connection : Connection E} {transport : BrowserResolvedTransport}
    {sessionKey : Option BrowserSessionKey} {queueAccept : Bool}
    {result : BrowserRuntimeResult (BrowserAcceptedConnection E × Option AcceptWaiter)}
    {node' : BrowserRuntimeNode E}
    (h : node.admitIrohApplicationConnection connection transport sessionKey queueAccept =
      some (result, node')) :
    node' = node ∨
      node.checkAdmission connection transport sessionKey queueAccept = .ok () ∧
        ∃ accepted m, SameSessions node m ∧ m.connections = node.connections ∧
          accepted.sessionKey = sessionKey ∧ accepted.transport = transport ∧
          (node' = m ∨ node' = (m.recordConnection connection accepted).2) := by
  rw [admitIrohApplicationConnection] at h
  cases hcheck : node.checkAdmission connection transport sessionKey queueAccept with
  | error err =>
    rw [hcheck] at h
    obtain ⟨-, rfl⟩ := Prod.mk.inj (Option.some.inj h)
    exact Or.inl rfl
  | ok value =>
    rw [hcheck] at h
    obtain ⟨⟨key, m⟩, hkey, heq⟩ := Option.map_eq_some_iff.mp h
    have hm : SameSessions node m ∧ m.connections = node.connections := by
      rw [allocateConnectionKey] at hkey
      split_ifs at hkey
      obtain ⟨-, rfl⟩ := Prod.mk.inj (Option.some.inj hkey)
      exact ⟨⟨rfl, rfl, rfl, rfl⟩, rfl⟩
    clear hkey
    dsimp only at heq
    generalize haccepted : (⟨key, sessionKey, connection.remoteId, fromUtf8Lossy connection.alpn,
      transport⟩ : BrowserAcceptedConnection E) = accepted at heq
    have hpush : SameSessions m
          (if queueAccept = true then m.pushAccepted accepted else (.ok none, m)).2 ∧
        (if queueAccept = true then m.pushAccepted accepted else (.ok none, m)).2.connections =
          m.connections := by
      split_ifs
      · exact m.pushAccepted_same accepted
      · exact ⟨.refl m, rfl⟩
    generalize (if queueAccept = true then m.pushAccepted accepted else (.ok none, m)) = pushed
      at heq hpush
    obtain ⟨pushed, m'⟩ := pushed
    refine Or.inr ⟨rfl, accepted, m', hm.1.trans hpush.1, hpush.2.trans hm.2, ?_, ?_, ?_⟩
    · rw [← haccepted]
    · rw [← haccepted]
    · cases pushed with
      | error err => exact Or.inl (Prod.mk.inj heq).2.symm
      | ok waiter => exact Or.inr (Prod.mk.inj heq).2.symm

omit [DecidableEq E] [EndpointKey E] in
theorem recordConnection_sameSessions {connection : Connection E}
    {accepted : BrowserAcceptedConnection E}
    (h : ∀ key s, accepted.sessionKey = some key → node.session key = some s →
      s.resolved accepted.transport = s) :
    SameSessions node (node.recordConnection connection accepted).2 := by
  rw [recordConnection]
  cases hkey : accepted.sessionKey with
  | none => exact ⟨rfl, rfl, rfl, rfl⟩
  | some key =>
    dsimp only
    cases hlookup : node.sessions.lookup key with
    | none => exact ⟨rfl, rfl, rfl, rfl⟩
    | some s =>
      dsimp only
      cases hresolve : s.resolveTransport accepted.transport with
      | error err => exact ⟨rfl, rfl, rfl, rfl⟩
      | ok t =>
        obtain ⟨-, rfl⟩ := BrowserSessionState.resolveTransport_eq_ok.mp hresolve
        refine ⟨?_, rfl, rfl, rfl⟩
        rw [h key s hkey hlookup]
        exact (node.session_insert key s).trans (write_self hlookup)

/-- Admission leaves the sessions alone when its session is resolved already. -/
theorem admit_sameSessions {connection : Connection E} {transport : BrowserResolvedTransport}
    {sessionKey : Option BrowserSessionKey} {queueAccept : Bool}
    {result : BrowserRuntimeResult (BrowserAcceptedConnection E × Option AcceptWaiter)}
    {node' : BrowserRuntimeNode E}
    (h : node.admitIrohApplicationConnection connection transport sessionKey queueAccept =
      some (result, node'))
    (hresolved : ∀ key s, sessionKey = some key → node.session key = some s →
      s.resolved transport = s) : SameSessions node node' := by
  rcases admit_cases h with rfl | ⟨-, accepted, m, hm, -, hkey, htransport, hnode⟩
  · exact .refl _
  · rcases hnode with rfl | rfl
    · exact hm
    · refine hm.trans (recordConnection_sameSessions fun key s hs hlookup => ?_)
      rw [htransport]
      rw [hm.session] at hlookup
      exact hresolved key s (hkey.symm.trans hs) hlookup

end Admission

/-! ## Operations -/

section Operations

variable [DecidableEq E] [EndpointKey E]

/-- The dialer session that a completed dial resolves, with its key. -/
def completedEntry (node : BrowserRuntimeNode E) (sessionKey : BrowserSessionKey)
    (transport : BrowserResolvedTransport) : Option (BrowserSessionKey × BrowserSessionState E) :=
  node.entry sessionKey fun s => (s.completeDial transport).toOption

/-- The session that a terminal decision ends, with its key. -/
def decidedEntry (node : BrowserRuntimeNode E) (sessionKey : BrowserSessionKey)
    (reasonOverride : Option WebRtcTerminalReason) :
    Option (BrowserSessionKey × BrowserSessionState E) :=
  node.entry sessionKey fun s =>
    some (s.recordTerminalSent (reasonOverride.getD s.failureReason)).2

/-- The session that goes down with its connection, with its key. -/
def closedEntry (node : BrowserRuntimeNode E) (connectionKey : BrowserConnectionKey) :
    Option (BrowserSessionKey × BrowserSessionState E) :=
  match node.connections.lookup connectionKey with
  | some ⟨_, some sessionKey, .webRtc, _⟩ => node.entry sessionKey fun s => some s.close
  | _ => none

end Operations

end BrowserRuntimeNode

section Operations

variable {E : Type*} [DecidableEq E] [EndpointKey E]

/-- The dial that the operation completes, and the transport it resolves to. -/
def NodeOp.completes : NodeOp E → Option (BrowserSessionKey × BrowserResolvedTransport)
  | .completeDial sessionKey transport => some (sessionKey, transport)
  | .dialIrohConnected _ sessionKey => sessionKey.map fun sessionKey => (sessionKey, .irohRelay)
  | .dialWebrtcConnected sessionKey session connection =>
    match requireWebrtcSelectedPath connection (.session session.remote session.dialId) with
    | .error _ => none
    | .ok () => some (sessionKey, .webRtc)
  | _ => none

/-- The session that the operation decides to end, and the reason if it is given. -/
def NodeOp.decides : NodeOp E → Option (BrowserSessionKey × Option WebRtcTerminalReason)
  | .rtcLifecycle input =>
    match input.errorMessage, input.event with
    | some _, _ | none, .webRtcFailed _ => some (input.sessionKey, none)
    | none, .webRtcClosed _ => some (input.sessionKey, some .closed)
    | none, .dataChannelOpen => none
  | .decideWebrtcFailure sessionKey _ => some (sessionKey, none)
  | .closeSession sessionKey _ => some (sessionKey, some .closed)
  | _ => none

omit [DecidableEq E] [EndpointKey E] in
/-- A lifecycle event that decides nothing is the opening of the channel. -/
theorem NodeOp.opens_of_decides_none {input : RtcLifecycleInput}
    (h : (NodeOp.rtcLifecycle input : NodeOp E).decides = none) :
    input = ⟨input.sessionKey, .dataChannelOpen, none⟩ := by
  obtain ⟨sessionKey, event, errorMessage⟩ := input
  cases errorMessage with
  | some message => cases event <;> exact absurd h (by simp [NodeOp.decides])
  | none =>
    cases event with
    | dataChannelOpen => rfl
    | webRtcFailed message | webRtcClosed message => exact absurd h (by simp [NodeOp.decides])

/-- The operation refreshes the addresses when it writes a session. -/
def NodeOp.refreshes : NodeOp E → Bool
  | .allocateDial _ _ transportIntent => transportIntent.usesWebrtc
  | .bootstrapSignal input => input.refreshes
  | op => op.decides.isNone

omit [DecidableEq E] [EndpointKey E] in
theorem NodeOp.refreshes_of_decides {op : NodeOp E}
    {decision : BrowserSessionKey × Option WebRtcTerminalReason} (h : op.decides = some decision) :
    op.refreshes = false := by
  cases op with
  | allocateDial | bootstrapSignal => exact absurd h (by simp [NodeOp.decides])
  | _ => exact congrArg Option.isNone h

namespace BrowserRuntimeNode

/-- The entry of the session table that an operation writes.  The closing of the node, which
writes all of them, is not among these. -/
def written [Blake3] (node : BrowserRuntimeNode E) :
    NodeOp E → Option (BrowserSessionKey × BrowserSessionState E)
  | .allocateDial remote alpn transportIntent => node.dialedEntry remote alpn transportIntent
  | .attachTransferredChannel sessionKey =>
    node.entry sessionKey fun s => s.attachTransferredChannel.toOption
  | .bootstrapSignal input => node.signalledEntry input
  | .webrtcConnection order connection _ | .webrtcProtocolConnection order connection =>
    node.boundEntry order connection
  | .connectionClose connectionKey => node.closedEntry connectionKey
  | op =>
    match op.completes, op.decides, op with
    | some (sessionKey, transport), _, _ => node.completedEntry sessionKey transport
    | none, some (sessionKey, reason), _ => node.decidedEntry sessionKey reason
    | none, none, .rtcLifecycle input =>
      node.entry input.sessionKey fun s => s.markTransferredChannelOpen.toOption
    | none, none, _ => none

variable {node node' : BrowserRuntimeNode E}

theorem written_of_decides [Blake3] {op : NodeOp E} {sessionKey : BrowserSessionKey}
    {reason : Option WebRtcTerminalReason} (h : op.decides = some (sessionKey, reason)) :
    node.written op = node.decidedEntry sessionKey reason := by
  cases op with
  | rtcLifecycle input => simp only [written, NodeOp.completes, h]
  | decideWebrtcFailure key message | closeSession key message =>
    obtain ⟨rfl, rfl⟩ := Prod.mk.inj (Option.some.inj h)
    rfl
  | _ => exact absurd h (by simp [NodeOp.decides])

theorem written_of_completes [Blake3] {op : NodeOp E} {sessionKey : BrowserSessionKey}
    {transport : BrowserResolvedTransport} (h : op.completes = some (sessionKey, transport)) :
    node.written op = node.completedEntry sessionKey transport := by
  cases op with
  | completeDial key transport | dialIrohConnected connection key
  | dialWebrtcConnected key session connection => simp only [written, h]
  | _ => exact absurd h (by simp [NodeOp.completes])

/-- A closed node writes nothing. -/
theorem written_of_closed [Blake3] (hclosed : node.closed = true) (op : NodeOp E) :
    node.written op = none := by
  have hentry : ∀ key update, node.entry key update = none := by
    intro key update
    rw [entry, if_pos hclosed]
  cases op with
  | allocateDial remote alpn transportIntent => exact if_pos (Or.inl hclosed)
  | attachTransferredChannel sessionKey => exact hentry _ _
  | bootstrapSignal input =>
    obtain ⟨signal, alpnOverride⟩ := input
    cases signal with
    | dialRequest dialId fromId toId generation alpn transportIntent =>
      have haccepted : ∀ alpn, node.acceptedEntry fromId alpn ⟨dialId, generation⟩
          transportIntent = none := fun alpn => if_pos (Or.inl hclosed)
      simp only [written, signalledEntry, haccepted, ite_self]
      split <;> rfl
    | terminal dialId fromId toId generation reason message =>
      simp only [written, signalledEntry, terminatedEntry, hentry, ite_self]
    | offer | answer | iceCandidate | endOfCandidates => rfl
  | rtcLifecycle input =>
    cases hdecides : (NodeOp.rtcLifecycle input : NodeOp E).decides with
    | some decided => exact (written_of_decides hdecides).trans (hentry _ _)
    | none =>
      simp only [written, NodeOp.completes, hdecides]
      exact hentry _ _
  | webrtcConnection order connection queueAccept => exact if_pos hclosed
  | webrtcProtocolConnection order connection => exact if_pos hclosed
  | connectionClose connectionKey =>
    rw [written, closedEntry]
    split
    · exact hentry _ _
    · rfl
  | completeDial | decideWebrtcFailure | closeSession => exact hentry _ _
  | dialIrohConnected connection sessionKey =>
    cases sessionKey with
    | none => rfl
    | some sessionKey => exact hentry _ _
  | dialWebrtcConnected sessionKey session connection =>
    cases hcompletes : (NodeOp.dialWebrtcConnected sessionKey session connection).completes with
    | some completed => exact (written_of_completes hcompletes).trans (hentry _ _)
    | none => simp only [written, NodeOp.decides, hcompletes]
  | _ => rfl

/-- What a step does to the sessions and to the addresses. -/
structure StepEffect [Blake3] (node : BrowserRuntimeNode E) (op : NodeOp E)
    (node' : BrowserRuntimeNode E) : Prop where
  wrote : Wrote node (node.written op) node'
  follows : op.refreshes = true → Follows node (node.written op) node'
  stale : op.refreshes = false → node'.localAddrs = node.localAddrs

theorem StepEffect.idle [Blake3] {op : NodeOp E} (h : SameSessions node node')
    (hop : node.written op = none) : StepEffect node op node' where
  wrote := hop ▸ h.wrote
  follows := fun _ => Or.inr ⟨hop, h.localAddrs⟩
  stale := fun _ => h.localAddrs

/-- An operation after which the addresses follow. -/
theorem StepEffect.of_follows [Blake3] {op : NodeOp E} (hop : op.refreshes = true)
    (h : Wrote node (node.written op) node' ∧ Follows node (node.written op) node') :
    StepEffect node op node' where
  wrote := h.1
  follows := fun _ => h.2
  stale := fun hstale => absurd (hop.symm.trans hstale) (by simp)

/-- A terminal decision, which leaves the addresses as they are. -/
theorem StepEffect.of_decides [Blake3] {op : NodeOp E}
    {sessionKey : BrowserSessionKey} {reason : Option WebRtcTerminalReason}
    (hdecides : op.decides = some (sessionKey, reason)) (message : String)
    (hnode : node' = (node.emitTerminalDecision sessionKey reason message).2) :
    StepEffect node op node' := by
  obtain ⟨hwrote, haddrs⟩ := node.emitTerminalDecision_effect sessionKey reason message
  subst hnode
  have hstale : op.refreshes = false := NodeOp.refreshes_of_decides hdecides
  refine ⟨?_, fun h => absurd (h.symm.trans hstale) (by simp), fun _ => haddrs⟩
  rw [written_of_decides hdecides]
  exact hwrote

omit [DecidableEq E] in
theorem completeDial_effect (node : BrowserRuntimeNode E) (sessionKey : BrowserSessionKey)
    (transport : BrowserResolvedTransport) :
    Wrote node (node.completedEntry sessionKey transport)
        (node.completeDial sessionKey transport).2 ∧
      Follows node (node.completedEntry sessionKey transport)
        (node.completeDial sessionKey transport).2 :=
  node.updateSession_effect sessionKey _

omit [DecidableEq E] in
/-- A completed dial leaves its session resolved, to a transport it can be resolved to. -/
theorem session_of_completeDial_ok {sessionKey : BrowserSessionKey}
    {transport : BrowserResolvedTransport} {t : BrowserSessionState E}
    (h : node.completeDial sessionKey transport = (.ok t, node')) :
    node'.session sessionKey = some t ∧ t.resolved transport = t ∧ t.CanResolve transport := by
  rw [completeDial, updateSession] at h
  split_ifs at h
  · exact absurd (Prod.mk.inj h).1 (by simp)
  · cases hlookup : node.sessions.lookup sessionKey with
    | none =>
      rw [hlookup] at h
      exact absurd (Prod.mk.inj h).1 (by simp)
    | some s =>
      rw [hlookup] at h
      dsimp only at h
      cases hupdate : s.completeDial transport with
      | error err =>
        rw [hupdate] at h
        exact absurd (Prod.mk.inj h).1 (by simp)
      | ok t' =>
        rw [hupdate] at h
        obtain ⟨hresult, rfl⟩ := Prod.mk.inj h
        obtain rfl := Except.ok.inj hresult
        obtain ⟨-, hresolve, rfl⟩ := BrowserSessionState.completeDial_eq_ok.mp hupdate
        exact ⟨AList.lookup_insert _, rfl, BrowserSessionState.canResolve_resolved.mpr hresolve⟩

/-- The admission that follows a completed dial leaves the sessions alone. -/
theorem admit_of_completeDial_ok {sessionKey : BrowserSessionKey}
    {transport : BrowserResolvedTransport} {t : BrowserSessionState E}
    {connection : Connection E} {queueAccept : Bool} {m : BrowserRuntimeNode E}
    {result : BrowserRuntimeResult (BrowserAcceptedConnection E × Option AcceptWaiter)}
    (hm : m.session sessionKey = some t) (ht : t.resolved transport = t)
    (h : m.admitIrohApplicationConnection connection transport (some sessionKey) queueAccept =
      some (result, node')) : SameSessions m node' := by
  refine admit_sameSessions h fun key s hkey hs => ?_
  obtain rfl := Option.some.inj hkey
  obtain rfl := Option.some.inj (hm.symm.trans hs)
  exact ht

theorem dialConnected_effect {sessionKey : BrowserSessionKey}
    {transport : BrowserResolvedTransport} {connection : Connection E}
    {result : BrowserRuntimeResult (BrowserAcceptedConnection E × Option AcceptWaiter)}
    (h : (match node.completeDial sessionKey transport with
        | (.error err, node) => some (.error err, node)
        | (.ok _, node) =>
          node.admitIrohApplicationConnection connection transport (some sessionKey) false) =
      some (result, node')) :
    Wrote node (node.completedEntry sessionKey transport) node' ∧
      Follows node (node.completedEntry sessionKey transport) node' := by
  have heffect := node.completeDial_effect sessionKey transport
  rcases hcomplete : node.completeDial sessionKey transport with ⟨completed, m⟩
  rw [hcomplete] at h heffect
  cases completed with
  | error err =>
    obtain ⟨-, rfl⟩ := Prod.mk.inj (Option.some.inj h)
    exact heffect
  | ok t =>
    obtain ⟨hm, ht, -⟩ := session_of_completeDial_ok hcomplete
    have hsame := admit_of_completeDial_ok hm ht h
    exact ⟨heffect.1.trans_same hsame, heffect.2.trans_same hsame⟩

theorem acceptWebrtcConnection_effect (node : BrowserRuntimeNode E)
    (order : List BrowserSessionKey) (connection : Connection E) :
    Wrote node (node.boundEntry order connection)
        (node.acceptWebrtcConnection order connection).2 ∧
      Follows node (node.boundEntry order connection)
        (node.acceptWebrtcConnection order connection).2 := by
  rcases node.acceptWebrtcConnection_cases order connection with
    ⟨err, heq, hentry⟩ | ⟨s, -, -, -, hentry, heq⟩
  · rw [heq, hentry]
    exact ⟨(SameSessions.refl node).wrote, Or.inr ⟨rfl, rfl⟩⟩
  · rw [heq, hentry]
    exact ⟨⟨node.session_insert _ _, rfl, rfl⟩, Or.inl (upToDate_refresh _)⟩

theorem handleWebrtcConnection_effect {order : List BrowserSessionKey}
    {connection : Connection E} {queueAccept : Bool}
    {result : BrowserRuntimeResult (BrowserAcceptedConnection E × Option AcceptWaiter)}
    (h : node.handleWebrtcConnection order connection queueAccept = some (result, node')) :
    Wrote node (node.boundEntry order connection) node' ∧
      Follows node (node.boundEntry order connection) node' := by
  have heffect := node.acceptWebrtcConnection_effect order connection
  rw [handleWebrtcConnection] at h
  rcases node.acceptWebrtcConnection_cases order connection with
    ⟨err, heq, hentry⟩ | ⟨s, -, -, -, hentry, heq⟩
  · rw [heq] at h heffect
    obtain ⟨-, rfl⟩ := Prod.mk.inj (Option.some.inj h)
    exact heffect
  · rw [heq] at h heffect
    have hm := congrFun heffect.1.session s.sessionKey
    rw [hentry, write, Function.update_self] at hm
    have hsame := admit_of_completeDial_ok hm (BrowserSessionState.resolved_resolved) h
    exact ⟨heffect.1.trans_same hsame, heffect.2.trans_same hsame⟩

omit [DecidableEq E] in
theorem connectionClose_effect (node : BrowserRuntimeNode E)
    (connectionKey : BrowserConnectionKey) :
    Wrote node (node.closedEntry connectionKey) (node.connectionClose connectionKey).2 ∧
      Follows node (node.closedEntry connectionKey) (node.connectionClose connectionKey).2 := by
  have hsame := SameSessions.refl node
  rw [connectionClose, closedEntry]
  by_cases hclosed : node.closed = true
  · rw [if_pos hclosed]
    have hentry : ∀ key update, node.entry key update = none := by
      intro key update
      rw [entry, if_pos hclosed]
    split
    · rw [hentry]
      exact ⟨hsame.wrote, Or.inr ⟨rfl, rfl⟩⟩
    · exact ⟨hsame.wrote, Or.inr ⟨rfl, rfl⟩⟩
  · rw [if_neg hclosed]
    cases hlookup : node.connections.lookup connectionKey with
    | none => exact ⟨hsame.wrote, Or.inr ⟨rfl, rfl⟩⟩
    | some c =>
      obtain ⟨irohConnection, sessionKey, transport, closed⟩ := c
      cases transport with
      | irohRelay =>
        cases sessionKey with
        | none | some key => exact ⟨⟨rfl, rfl, rfl⟩, Or.inr ⟨rfl, rfl⟩⟩
      | webRtc =>
        cases sessionKey with
        | none => exact ⟨⟨rfl, rfl, rfl⟩, Or.inl (upToDate_refresh _)⟩
        | some key =>
          refine ⟨⟨?_, rfl, rfl⟩, Or.inl (upToDate_refresh _)⟩
          show _ = write node.session (node.entry key fun s => some s.close)
          rw [entry, if_neg hclosed]
          exact node.session_modify key BrowserSessionState.close

omit [DecidableEq E] [EndpointKey E] in
theorem acceptOpen_sameSessions (node : BrowserRuntimeNode E) (alpn : String) :
    SameSessions node (node.acceptOpen alpn).2 := by
  rw [acceptOpen]
  cases validateAlpn alpn with
  | error err => exact .refl node
  | ok alpn =>
    dsimp only
    split_ifs
    · exact .refl node
    · cases node.accepts.lookup alpn with
      | none => exact .refl node
      | some registration =>
        dsimp only
        split_ifs
        · exact .refl node
        · exact ⟨rfl, rfl, rfl, rfl⟩

omit [DecidableEq E] [EndpointKey E] in
theorem acceptNext_sameSessions (node : BrowserRuntimeNode E) (acceptId : BrowserAcceptId) :
    SameSessions node (node.acceptNext acceptId).2 := by
  rw [acceptNext]
  split_ifs
  · exact .refl node
  · cases node.accepts.values.find? fun registration => registration.id = acceptId with
    | none => exact .refl node
    | some registration =>
      obtain ⟨id, alpn, claimed, queue, waiters, capacity⟩ := registration
      cases queue with
      | nil | cons connection queue => exact ⟨rfl, rfl, rfl, rfl⟩

omit [DecidableEq E] [EndpointKey E] in
theorem acceptClose_sameSessions (node : BrowserRuntimeNode E) (acceptId : BrowserAcceptId) :
    SameSessions node (node.acceptClose acceptId).2 := by
  rw [acceptClose]
  cases node.accepts.values.find? fun registration => registration.id = acceptId with
  | none => exact .refl node
  | some registration => exact ⟨rfl, rfl, rfl, rfl⟩

variable [Blake3]

/-- **Every step but the closing of the node writes at most the entry `written` names**, and the
addresses follow unless the operation is one that does not refresh them. -/
theorem step_effect {op : NodeOp E} (hop : ∀ reason, op ≠ .closeNode reason)
    (hstep : node.step op = some node') : StepEffect node op node' := by
  cases op with
  | allocateDial remote alpn transportIntent =>
    obtain ⟨⟨result, m⟩, hdial, rfl⟩ := Option.map_eq_some_iff.mp hstep
    obtain ⟨hwrote, hfollows, hstale⟩ := allocateDial_effect hdial
    exact ⟨hwrote, hfollows, hstale⟩
  | attachTransferredChannel sessionKey =>
    obtain rfl := Option.some.inj hstep
    exact .of_follows rfl
      (node.updateSession_effect sessionKey BrowserSessionState.attachTransferredChannel)
  | completeDial sessionKey transport =>
    obtain rfl := Option.some.inj hstep
    exact .of_follows rfl (node.completeDial_effect sessionKey transport)
  | bootstrapSignal input =>
    obtain rfl := Option.some.inj hstep
    obtain ⟨hwrote, hfollows, hstale⟩ := node.handleBootstrapSignal_effect input
    exact ⟨hwrote, hfollows, hstale⟩
  | rtcLifecycle input =>
    obtain rfl := Option.some.inj hstep
    obtain ⟨sessionKey, event, errorMessage⟩ := input
    cases errorMessage with
    | some message =>
      refine .of_decides rfl message ?_
      rw [handleRtcLifecycleResult, lifecycleResultOfDecision_snd]
      rfl
    | none =>
      cases event with
      | webRtcFailed message =>
        refine .of_decides rfl message ?_
        rw [handleRtcLifecycleResult, lifecycleResultOfDecision_snd]
        rfl
      | webRtcClosed message =>
        refine .of_decides rfl message ?_
        rw [handleRtcLifecycleResult, lifecycleResultOfDecision_snd]
        rfl
      | dataChannelOpen =>
        have hnode : (node.handleRtcLifecycleResult ⟨sessionKey, .dataChannelOpen, none⟩).2 =
            (node.updateSession sessionKey
              BrowserSessionState.markTransferredChannelOpen).2 := by
          rw [handleRtcLifecycleResult, markTransferredChannelOpen]
          rcases node.updateSession sessionKey BrowserSessionState.markTransferredChannelOpen
            with ⟨result, m⟩
          cases result <;> rfl
        rw [hnode]
        exact .of_follows rfl
          (node.updateSession_effect sessionKey BrowserSessionState.markTransferredChannelOpen)
  | decideWebrtcFailure sessionKey message =>
    obtain rfl := Option.some.inj hstep
    exact .of_decides rfl message rfl
  | closeSession sessionKey message =>
    obtain rfl := Option.some.inj hstep
    exact .of_decides rfl message rfl
  | relayConnection connection queueAccept =>
    obtain ⟨⟨result, m⟩, hadmit, rfl⟩ := Option.map_eq_some_iff.mp hstep
    exact .idle (admit_sameSessions hadmit fun key s hkey => absurd hkey (by simp)) rfl
  | webrtcConnection order connection queueAccept =>
    obtain ⟨⟨result, m⟩, hadmit, rfl⟩ := Option.map_eq_some_iff.mp hstep
    exact .of_follows rfl (handleWebrtcConnection_effect hadmit)
  | webrtcProtocolConnection order connection =>
    obtain rfl := Option.some.inj hstep
    exact .of_follows rfl (node.acceptWebrtcConnection_effect order connection)
  | dialIrohConnected connection sessionKey =>
    obtain ⟨⟨result, m⟩, hdial, rfl⟩ := Option.map_eq_some_iff.mp hstep
    cases sessionKey with
    | none => exact .idle (admit_sameSessions hdial fun key s hkey => absurd hkey (by simp)) rfl
    | some sessionKey => exact .of_follows rfl (dialConnected_effect hdial)
  | dialWebrtcConnected sessionKey session connection =>
    obtain ⟨⟨result, m⟩, hdial, rfl⟩ := Option.map_eq_some_iff.mp hstep
    rw [dialWebrtcConnected] at hdial
    cases hpath : requireWebrtcSelectedPath connection (.session session.remote session.dialId) with
    | error err =>
      rw [hpath] at hdial
      obtain ⟨-, rfl⟩ := Prod.mk.inj (Option.some.inj hdial)
      refine .idle (.refl node) ?_
      simp [written, NodeOp.completes, NodeOp.decides, hpath]
    | ok value =>
      rw [hpath] at hdial
      have hwritten : node.written (.dialWebrtcConnected sessionKey session connection) =
          node.completedEntry sessionKey .webRtc :=
        written_of_completes (by simp only [NodeOp.completes, hpath])
      refine .of_follows rfl ?_
      rw [hwritten]
      exact dialConnected_effect hdial
  | connectionClose connectionKey =>
    obtain rfl := Option.some.inj hstep
    exact .of_follows rfl (node.connectionClose_effect connectionKey)
  | acceptOpen alpn =>
    obtain rfl := Option.some.inj hstep
    exact .idle (node.acceptOpen_sameSessions alpn) rfl
  | acceptNext acceptId =>
    obtain rfl := Option.some.inj hstep
    exact .idle (node.acceptNext_sameSessions acceptId) rfl
  | acceptClose acceptId =>
    obtain rfl := Option.some.inj hstep
    exact .idle (node.acceptClose_sameSessions acceptId) rfl
  | dropWaiter waiter =>
    obtain rfl := Option.some.inj hstep
    exact .idle ⟨rfl, rfl, rfl, rfl⟩ rfl
  | closeNode reason => exact absurd rfl (hop reason)

omit [DecidableEq E] [EndpointKey E] [Blake3] in
/-- Closing the node ends every session. -/
theorem session_closeInner (node : BrowserRuntimeNode E) (reason : Option String)
    (hclosed : node.closed = false) (sessionKey : BrowserSessionKey) :
    (node.closeInner reason).2.session sessionKey =
      (node.session sessionKey).map fun s => (s.closeForNode reason).2 := by
  rw [closeInner, if_neg (by simp [hclosed])]
  exact Table.lookup_mapValues _ _ _

end BrowserRuntimeNode

end Operations

end IrohWebRtc
