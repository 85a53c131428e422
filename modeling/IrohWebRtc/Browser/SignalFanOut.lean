import IrohWebRtc.Browser.SessionRuns
import IrohWebRtc.Lib.FanOut

/-!
# Sending the signals of a browser node

`send_outbound_signals` of `browser_runtime/direct/bootstrap.rs` groups signals by session and
hands each group to the writer that is registered for its session; `close_node` of `direct.rs`
sends so what the closing of the node returns, and then lets go of the RTC registry.  The writer
of a session is removed when the dial it was registered for is over, whatever the session still
has to send.

The walk over the groups stops at the first session without a writer, and returns an error.  The
sessions that come after it in the iteration get nothing, although they have writers.  Which
sessions these are depends on the order of a hash map.  `close_node` has done all its closing by
then, but the error takes it out before it lets go of the registry.

The grouping and the walk are general, and are taken from `Lib.FanOut`.

* `fanOut_iff`: every signal whose session has a writer is handed to it exactly when the iteration
  over the sessions comes to no such session after one without.
* `closeNode_iff`: `close_node` detaches the registry exactly when every session that has a
  terminal signal to send has a writer.
-/

namespace IrohWebRtc

open FanOut

section

variable {E W : Type*}

/-- The session that a signal belongs to. -/
def WebRtcSignal.sessionKey (signal : WebRtcSignal E) : BrowserSessionKey :=
  .ofDialId signal.dialId

/-- The map `by_session` of `send_outbound_signals`. -/
def bySession (signals : List (WebRtcSignal E)) : Table BrowserSessionKey (List (WebRtcSignal E)) :=
  group WebRtcSignal.sessionKey signals

/-- The loop of `send_outbound_signals`, over the sessions in `order`: the batches that were handed
to writers, and the result.  That a writer is gone is ignored. -/
def sendBatches (signalSenders : Table BrowserSessionKey W)
    (batches : Table BrowserSessionKey (List (WebRtcSignal E))) :
    List BrowserSessionKey → List (W × List (WebRtcSignal E)) × BrowserRuntimeResult Unit
  | [] => ([], .ok ())
  | sessionKey :: order =>
    match signalSenders.lookup sessionKey with
    | none =>
      ([], .error ⟨.bootstrapFailed,
        "missing bootstrap signal sender for WebRTC session " ++ sessionKey.value⟩)
    | some sender =>
      let (sent, result) := sendBatches signalSenders batches order
      ((sender, (batches.lookup sessionKey).getD []) :: sent, result)

/-- `send_outbound_signals`, where the iteration over the sessions visits the keys in `order`. -/
def sendOutboundSignals (signalSenders : Table BrowserSessionKey W)
    (order : List BrowserSessionKey) (signals : List (WebRtcSignal E)) :
    List (W × List (WebRtcSignal E)) × BrowserRuntimeResult Unit :=
  if signals.isEmpty then ([], .ok ())
  else sendBatches signalSenders (bySession signals) order

/-- `BrowserRuntime` of `direct.rs`, with what its closing uses: the node of its core, once it was
spawned, the writers of its bootstrap runtime, and whether the RTC registry is attached. -/
structure DirectRuntime (E W : Type*) where
  node : Option (BrowserRuntimeNode E)
  signalSenders : Table BrowserSessionKey W
  rtcAttached : Bool

namespace DirectRuntime

/-- The writer that is removed when a `PendingDialCleanup` is dropped. -/
def dropPendingDialCleanup (rt : DirectRuntime E W) (sessionKey : BrowserSessionKey) :
    DirectRuntime E W :=
  { rt with signalSenders := rt.signalSenders.erase sessionKey }

/-- `node_close_result` of the node, or the outcome without one. -/
def nodeCloseResult (rt : DirectRuntime E W) (reason : Option String) :
    BrowserCloseOutcome E × Option (BrowserRuntimeNode E) :=
  match rt.node with
  | none => (⟨true, []⟩, none)
  | some node =>
    let ((_, outboundSignals), node) := node.closeInner reason
    (⟨true, outboundSignals⟩, some node)

/-- `close_node`: what was sent, the result, and the runtime afterwards. -/
def closeNode (rt : DirectRuntime E W) (order : List BrowserSessionKey) (reason : Option String) :
    List (W × List (WebRtcSignal E)) × BrowserRuntimeResult (BrowserCloseOutcome E) ×
      DirectRuntime E W :=
  let (outcome, node) := rt.nodeCloseResult reason
  match sendOutboundSignals rt.signalSenders order outcome.outboundSignals with
  | (sent, .error err) => (sent, .error err, { rt with node := node })
  | (sent, .ok ()) => (sent, .ok outcome, { rt with node := node, rtcAttached := false })

end DirectRuntime

/-! ## Fan-out -/

variable {signalSenders : Table BrowserSessionKey W} {order : List BrowserSessionKey}
  {signals : List (WebRtcSignal E)}

/-- The loop hands out the batches up to the first session without a writer. -/
theorem sendBatches_fst (batches : Table BrowserSessionKey (List (WebRtcSignal E)))
    (order : List BrowserSessionKey) :
    (sendBatches signalSenders batches order).1 =
      (order.takeWhile fun key => (signalSenders.lookup key).isSome).filterMap
        (batchOf (fun key => signalSenders.lookup key) fun key =>
          (batches.lookup key).getD []) := by
  induction order with
  | nil => rfl
  | cons key order ih =>
    cases hkey : signalSenders.lookup key with
    | none =>
      rw [List.takeWhile_cons_of_neg (by simp [hkey]), sendBatches, hkey]
      rfl
    | some sender =>
      have hbatch : batchOf (fun key => signalSenders.lookup key)
          (fun key => (batches.lookup key).getD []) key =
            some (sender, (batches.lookup key).getD []) := by
        rw [batchOf, hkey]
        rfl
      rw [List.takeWhile_cons_of_pos (by simp [hkey]), List.filterMap_cons_some hbatch, ← ih,
        sendBatches, hkey]

/-- The loop succeeds when every session has a writer. -/
theorem sendBatches_snd (batches : Table BrowserSessionKey (List (WebRtcSignal E)))
    (order : List BrowserSessionKey) :
    (sendBatches signalSenders batches order).2 = .ok () ↔
      ∀ key ∈ order, (signalSenders.lookup key).isSome = true := by
  induction order with
  | nil => exact ⟨fun _ key hkey => absurd hkey (by simp), fun _ => rfl⟩
  | cons key order ih =>
    rw [List.forall_mem_cons, ← ih]
    cases hkey : signalSenders.lookup key with
    | none =>
      rw [sendBatches, hkey]
      simp
    | some sender =>
      rw [sendBatches, hkey]
      simp

/-- The iteration visits the sessions of the signals. -/
theorem mem_order (horder : order.Perm (bySession signals).keys) {key : BrowserSessionKey} :
    key ∈ order ↔ ∃ signal ∈ signals, signal.sessionKey = key := by
  rw [horder.mem_iff]
  exact mem_keys_group

/-- What the writer of a session gets of the session's signals. -/
theorem filter_sendOutboundSignals [DecidableEq W]
    (horder : order.Perm (bySession signals).keys) {key : BrowserSessionKey} {sender : W}
    (hkey : signalSenders.lookup key = some sender) :
    ((sentTo sender (sendOutboundSignals signalSenders order signals).1).filter fun signal =>
        signal.sessionKey = key) =
      if key ∈ order.takeWhile fun key => (signalSenders.lookup key).isSome then
        signals.filter fun signal => signal.sessionKey = key
      else [] := by
  rw [sendOutboundSignals]
  by_cases hempty : signals.isEmpty = true
  · rw [if_pos hempty, List.isEmpty_iff.mp hempty]
    split_ifs <;> rfl
  · have hnodup : order.Nodup := horder.nodup_iff.mpr (bySession signals).nodupKeys
    rw [if_neg hempty, sendBatches_fst]
    refine (filter_sentTo (fun key signal hmem => ?_)
      (hnodup.sublist (List.takeWhile_sublist _)) hkey).trans ?_
    · rw [bySession, getD_lookup_group] at hmem
      exact of_decide_eq_true (List.mem_filter.mp hmem).2
    · rw [bySession, getD_lookup_group]

/-- **Fan-out.**  Every signal whose session has a writer is handed to it, in the order of the list,
if and only if the iteration comes to no session with a writer after one without. -/
theorem fanOut_iff [DecidableEq W] (horder : order.Perm (bySession signals).keys) :
    (∀ key sender, signalSenders.lookup key = some sender →
        ((sentTo sender (sendOutboundSignals signalSenders order signals).1).filter fun signal =>
            signal.sessionKey = key) =
          signals.filter fun signal => signal.sessionKey = key) ↔
      order.Pairwise fun key key' =>
        signalSenders.lookup key = none → signalSenders.lookup key' = none := by
  have hnodup : order.Nodup := horder.nodup_iff.mpr (bySession signals).nodupKeys
  have hpairwise : (order.Pairwise fun key key' =>
        signalSenders.lookup key = none → signalSenders.lookup key' = none) ↔
      order.Pairwise fun key key' => (signalSenders.lookup key).isSome = false →
        (signalSenders.lookup key').isSome = false := by
    simp only [Option.isSome_eq_false_iff, Option.isNone_iff_eq_none]
  rw [hpairwise, ← forall_mem_takeWhile_iff hnodup]
  constructor
  · intro h key hkey hsome
    obtain ⟨sender, hsender⟩ := Option.isSome_iff_exists.mp hsome
    have hsent := h key sender hsender
    rw [filter_sendOutboundSignals horder hsender] at hsent
    by_contra hnot
    rw [if_neg hnot] at hsent
    obtain ⟨signal, hmem, hsignal⟩ := (mem_order horder).mp hkey
    exact absurd (decide_eq_true hsignal) (List.filter_eq_nil_iff.mp hsent.symm signal hmem)
  · intro h key sender hsender
    rw [filter_sendOutboundSignals horder hsender]
    split_ifs with hmem
    · rfl
    · refine (List.filter_eq_nil_iff.mpr fun signal hsignal hkey => hmem ?_).symm
      refine h key ((mem_order horder).mpr ⟨signal, hsignal, of_decide_eq_true hkey⟩) ?_
      rw [hsender]
      rfl

/-- Sending succeeds when every signal's session has a writer. -/
theorem sendOutboundSignals_snd (horder : order.Perm (bySession signals).keys) :
    (sendOutboundSignals signalSenders order signals).2 = .ok () ↔
      ∀ signal ∈ signals, (signalSenders.lookup signal.sessionKey).isSome = true := by
  rw [sendOutboundSignals]
  by_cases hempty : signals.isEmpty = true
  · rw [if_pos hempty, List.isEmpty_iff.mp hempty]
    simp
  · rw [if_neg hempty, sendBatches_snd]
    constructor
    · intro h signal hsignal
      exact h _ ((mem_order horder).mpr ⟨signal, hsignal, rfl⟩)
    · intro h key hkey
      obtain ⟨signal, hsignal, rfl⟩ := (mem_order horder).mp hkey
      exact h signal hsignal

/-! ## Closing -/

/-- The session has a terminal signal to send when its node is closed: it uses WebRTC and has sent
none. -/
def BrowserRuntimeNode.Owes (node : BrowserRuntimeNode E) (session : BrowserSessionState E) :
    Prop :=
  node.closed = false ∧ (∃ key, node.session key = some session) ∧
    session.transportIntent.usesWebrtc = true ∧ session.terminalSent = none

/-- `close_inner` returns a signal for each session that owes one. -/
theorem BrowserRuntimeNode.exists_mem_closeInner (node : BrowserRuntimeNode E)
    (reason : Option String) (key : BrowserSessionKey) :
    (∃ signal ∈ (node.closeInner reason).1.2, signal.sessionKey = key) ↔
      ∃ session, node.Owes session ∧ BrowserSessionKey.ofDialId session.dialId = key := by
  rw [closeInner]
  split_ifs with hclosed
  · simp [Owes, hclosed]
  · have hopen : node.closed = false := by simpa using hclosed
    constructor
    · rintro ⟨signal, hmem, rfl⟩
      obtain ⟨s, hs, hsignal⟩ := List.mem_filterMap.mp hmem
      obtain ⟨key, hs⟩ := Table.mem_values.mp hs
      rw [BrowserSessionState.closeForNode] at hsignal
      split_ifs at hsignal with hsend
      rw [Bool.and_eq_true, Option.isNone_iff_eq_none] at hsend
      obtain rfl := Option.some.inj hsignal
      exact ⟨s, ⟨hopen, ⟨key, hs⟩, hsend.2, hsend.1⟩, rfl⟩
    · rintro ⟨s, ⟨-, ⟨key, hs⟩, huses, hnone⟩, rfl⟩
      refine ⟨sessionTerminalSignal s .closed reason,
        List.mem_filterMap.mpr ⟨s, Table.mem_values.mpr ⟨key, hs⟩, ?_⟩, rfl⟩
      rw [BrowserSessionState.closeForNode, if_pos (by simp [huses, hnone])]

namespace DirectRuntime

/-- **Closing.**  `close_node` detaches the registry if and only if every session that owes a
terminal signal has a writer. -/
theorem closeNode_iff (rt : DirectRuntime E W) (reason : Option String)
    (horder : order.Perm (bySession (rt.nodeCloseResult reason).1.outboundSignals).keys) :
    (rt.closeNode order reason).2.2.rtcAttached = false ↔
      rt.rtcAttached = false ∨
        ∀ node session, rt.node = some node → node.Owes session →
          (rt.signalSenders.lookup (.ofDialId session.dialId)).isSome = true := by
  have hsent : (sendOutboundSignals rt.signalSenders order
        (rt.nodeCloseResult reason).1.outboundSignals).2 = .ok () ↔
      ∀ signal ∈ (rt.nodeCloseResult reason).1.outboundSignals,
        (rt.signalSenders.lookup signal.sessionKey).isSome = true :=
    sendOutboundSignals_snd horder
  have howes : (∀ signal ∈ (rt.nodeCloseResult reason).1.outboundSignals,
        (rt.signalSenders.lookup signal.sessionKey).isSome = true) ↔
      ∀ node session, rt.node = some node → node.Owes session →
        (rt.signalSenders.lookup (.ofDialId session.dialId)).isSome = true := by
    rw [nodeCloseResult]
    cases hnode : rt.node with
    | none => simp
    | some node =>
      have hexists := node.exists_mem_closeInner reason
      constructor
      · intro h node' s hnode' hs
        obtain rfl := Option.some.inj hnode'
        obtain ⟨signal, hmem, hkey⟩ := (hexists _).mpr ⟨s, hs, rfl⟩
        rw [← hkey]
        exact h signal hmem
      · intro h signal hmem
        obtain ⟨s, hs, hkey⟩ := (hexists _).mp ⟨signal, hmem, rfl⟩
        rw [← hkey]
        exact h node s rfl hs
  rw [← howes, ← hsent, closeNode]
  dsimp only
  rcases sendOutboundSignals rt.signalSenders order (rt.nodeCloseResult reason).1.outboundSignals
    with ⟨sent, result⟩
  cases result with
  | error err => simp
  | ok value => simp

end DirectRuntime

/-- **Signals and the closing of the node.**  For all signals, writers and iteration orders, the
signals of the sessions with a writer are handed to it in the order of the list exactly when the
iteration comes to no session with a writer after one without; and `close_node` detaches the RTC
registry exactly when every session that owes a terminal signal has a writer. -/
theorem signalFanOut_iff [DecidableEq W] :
    (∀ (signalSenders : Table BrowserSessionKey W) (order : List BrowserSessionKey)
        (signals : List (WebRtcSignal E)), order.Perm (bySession signals).keys →
      ((∀ key sender, signalSenders.lookup key = some sender →
          ((sentTo sender (sendOutboundSignals signalSenders order signals).1).filter fun signal =>
              signal.sessionKey = key) =
            signals.filter fun signal => signal.sessionKey = key) ↔
        order.Pairwise fun key key' =>
          signalSenders.lookup key = none → signalSenders.lookup key' = none)) ∧
      ∀ (rt : DirectRuntime E W) (order : List BrowserSessionKey) (reason : Option String),
        order.Perm (bySession (rt.nodeCloseResult reason).1.outboundSignals).keys →
        ((rt.closeNode order reason).2.2.rtcAttached = false ↔
          rt.rtcAttached = false ∨
            ∀ node session, rt.node = some node → node.Owes session →
              (rt.signalSenders.lookup (.ofDialId session.dialId)).isSome = true) :=
  ⟨fun _ _ _ horder => fanOut_iff horder, fun rt _ reason horder => rt.closeNode_iff reason horder⟩

end

section Sample

open scoped Sample
open BrowserRuntimeNode Sample

/-- Two dials of `alice` to `bob` over WebRTC. -/
def sampleTwoDials : List (NodeOp Key) :=
  [.allocateDial bob "chat" .webRtcPreferred, .allocateDial bob "chat" .webRtcPreferred]

/-- The key of the second one. -/
def sampleSecondKey : BrowserSessionKey := .ofDialId (hashHead secondHash)

/-- The runtime with two dials under way. -/
def sampleRuntime (node : BrowserRuntimeNode Key) : DirectRuntime Key ℕ :=
  ⟨some node, (AList.insert (.ofDialId sampleDialId) 0 ∅).insert sampleSecondKey 1, true⟩

/-- An iteration over the sessions of the two dials. -/
def sampleOrder : List BrowserSessionKey := [.ofDialId sampleDialId, sampleSecondKey]

theorem signalFanOut_iff_sample :
    ∃ node, Runs.run step sampleNode sampleTwoDials = some node ∧
      ∀ session, node.Owes session →
        ((sampleRuntime node).signalSenders.lookup (.ofDialId session.dialId)).isSome = true := by
  have hrun : (Runs.run step sampleNode sampleTwoDials).map (fun node =>
      decide ((bySession ((sampleRuntime node).nodeCloseResult none).1.outboundSignals).keys =
        sampleOrder ∧ ((sampleRuntime node).closeNode sampleOrder none).2.2.rtcAttached = false)) =
      some true := by decide +kernel
  obtain ⟨node, hrun, hclose⟩ := Option.map_eq_some_iff.mp hrun
  obtain ⟨hkeys, hdetached⟩ := of_decide_eq_true hclose
  have hiff := signalFanOut_iff.2 (sampleRuntime node) sampleOrder none
    (List.Perm.of_eq hkeys.symm)
  refine ⟨node, hrun, fun session howes => ?_⟩
  exact (hiff.mp hdetached).resolve_left (by simp [sampleRuntime]) node session rfl howes

/-- **A dial that is over keeps the other one's signal back, and the registry attached.**  The first
dial has returned, so its writer was removed; its session owes a terminal signal still. -/
theorem closeNode_stops_at_missing_sender :
    ∃ node, Runs.run step sampleNode sampleTwoDials = some node ∧
      let rt := (sampleRuntime node).dropPendingDialCleanup (.ofDialId sampleDialId)
      let signals := (rt.nodeCloseResult none).1.outboundSignals
      sampleOrder.Perm (bySession signals).keys ∧ rt.signalSenders.lookup sampleSecondKey = some 1 ∧
        ((sentTo 1 (rt.closeNode sampleOrder none).1).filter fun signal =>
            signal.sessionKey = sampleSecondKey) ≠
          (signals.filter fun signal => signal.sessionKey = sampleSecondKey) ∧
        (rt.closeNode sampleOrder none).2.2.rtcAttached = true := by
  have hrun : (Runs.run step sampleNode sampleTwoDials).map (fun node =>
      let rt := (sampleRuntime node).dropPendingDialCleanup (.ofDialId sampleDialId)
      let signals := (rt.nodeCloseResult none).1.outboundSignals
      decide (sampleOrder.Perm (bySession signals).keys ∧
        rt.signalSenders.lookup sampleSecondKey = some 1 ∧
        ((sentTo 1 (rt.closeNode sampleOrder none).1).filter fun signal =>
            signal.sessionKey = sampleSecondKey) ≠
          (signals.filter fun signal => signal.sessionKey = sampleSecondKey) ∧
        (rt.closeNode sampleOrder none).2.2.rtcAttached = true)) = some true := by decide +kernel
  obtain ⟨node, hrun, hclose⟩ := Option.map_eq_some_iff.mp hrun
  exact ⟨node, hrun, of_decide_eq_true hclose⟩

end Sample

end IrohWebRtc
