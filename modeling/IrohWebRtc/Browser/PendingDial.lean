import IrohWebRtc.Browser.SessionState

/-!
# What becomes of a pending dial

`pending_dial_action_from_session` of `browser_runtime/direct/dial.rs` and
`pending_prepare_action_from_session` of `browser_runtime/direct/protocol_transport.rs`: a caller
that waits for a WebRTC session is answered when the session has reached a state that decides its
dial.  The two functions have the same body.

The answer is to go on over WebRTC, to go on over the relay, to fail, or that the session has
closed; where the session has reached none of the states that decide, there is no answer, and the
call goes on waiting.  An open channel comes first: a session whose channel is open is dialed over
WebRTC, even where it has been resolved to the relay or has ended by then.
-/

namespace IrohWebRtc

/-- How a pending dial or preparation is completed. -/
inductive PendingAction where
  | webRtc
  | relay
  | fail
  | closed
  deriving DecidableEq, Repr

variable {E : Type*}

/-- The arms of the two functions, in their order. -/
def pendingAction (session : BrowserSessionSnapshot E) : Option PendingAction :=
  if session.channelAttachment = .open then some .webRtc
  else if session.resolvedTransport = some .irohRelay ∨ session.lifecycle = .relaySelected then
    some .relay
  else if session.lifecycle = .failed ∨ session.channelAttachment = .failed then some .fail
  else if session.lifecycle = .closed ∨ session.channelAttachment = .closed then some .closed
  else none

def pendingDialActionFromSession (session : BrowserSessionSnapshot E) : Option PendingAction :=
  pendingAction session

def pendingPrepareActionFromSession (session : BrowserSessionSnapshot E) : Option PendingAction :=
  pendingAction session

/-- The relay answers only for a session that was resolved to it or selected it. -/
theorem pendingAction_eq_relay {session : BrowserSessionSnapshot E}
    (h : pendingAction session = some .relay) :
    session.resolvedTransport = some .irohRelay ∨ session.lifecycle = .relaySelected := by
  unfold pendingAction at h
  split_ifs at h with hopen hrelay
  · exact absurd h (by simp)
  · exact hrelay
  · exact absurd h (by simp)
  · exact absurd h (by simp)

/-- The WebRTC dial is for a session whose channel is open. -/
theorem pendingAction_eq_webRtc {session : BrowserSessionSnapshot E} :
    pendingAction session = some .webRtc ↔ session.channelAttachment = .open := by
  unfold pendingAction
  split_ifs with hopen
  all_goals simp [hopen]

/-- A session that has ended, for whatever reason, is decided. -/
theorem pendingAction_applyTerminalReason (session : BrowserSessionState E)
    (reason : WebRtcTerminalReason) :
    pendingAction (session.applyTerminalReason reason).2 ≠ none := by
  unfold pendingAction
  cases reason with
  | fallbackSelected =>
    rw [BrowserSessionState.applyTerminalReason]
    split_ifs <;> simp_all [BrowserSessionState.fail]
  | webRtcFailed | cancelled | closed =>
    split_ifs <;>
      simp_all [BrowserSessionState.applyTerminalReason, BrowserSessionState.fail,
        BrowserSessionState.close]

end IrohWebRtc
