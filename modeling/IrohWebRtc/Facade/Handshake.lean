import IrohWebRtc.Core.Coordinator
import IrohWebRtc.Lib.Runs

/-!
# The native handshake

`facade/native.rs`: how two native nodes set up one WebRTC session over a bootstrap stream.  The
dialer sends the dial request and its offer, spawns a task that sends its local ICE events, and
receives (`receive_dialer_signals`).  The answerer reads the request, receives
(`receive_answerer_signals`), answers the offer, and spawns an ICE task of its own.  Each side
ends its loop at the end-of-candidates of the other and then waits for its ICE task.

The two parties with their ICE tasks, and the two directions of the stream as first-in first-out
queues, form a transition system whose events are the steps of the four tasks, in any
interleaving.  Operations on the peer connection succeed, and what the connection gathers is a
list of local ICE events that ends in end-of-candidates.

## The scripts

Each direction has a script: the calls that its receiver is to make on its peer connection, the
description first, then the candidates as they were gathered, and the end-of-candidates.  Two
tasks take part in sending it, the party itself and its ICE task.  The invariant (`Conveys`) is
that the calls the receiver has made, the signals that are on the stream, and what is not sent yet
make up the script, in this order.  So a receiver can only meet the next call of its script, which
is why it never fails and why it ends with all of them made.

Progress does not follow from this alone: a party that waits must wait for something that is still
to come.  It is read off by looking at which of the four tasks have ended.

## Main result

`handshake_agreement`: in every reachable state no side has failed, a side that has finished
receiving has applied exactly what the other sent, and some task can move unless both are done.
-/

namespace IrohWebRtc

/-- The events a peer connection gathers: any list that ends in end-of-candidates. -/
structure LocalIceScript where
  events : List LocalIceEvent
  ends : events.getLast? = some .endOfCandidates

/-- What the dial of one session brings along. -/
structure Handshake (E : Type*) where
  /-- The route, as the dialer holds it. -/
  coordinator : DialCoordinator E
  alpn : String
  transportIntent : BootstrapTransportIntent
  usesWebrtc : transportIntent.usesWebrtc = true
  /-- What `create_offer` and `create_answer` return. -/
  offerSdp : String
  answerSdp : String
  dialerIce : LocalIceScript
  answererIce : LocalIceScript

/-- A call on the peer connection by which a received signal is applied. -/
inductive RtcCall where
  /-- `apply_answer` on the dialer's side, `apply_offer` on the answerer's. -/
  | applyDescription (sdp : String)
  | addIceCandidate (candidate : WebRtcIceCandidate)
  | addEndOfCandidates
  deriving DecidableEq, Repr

inductive HandshakeError where
  /-- `native WebRTC bootstrap signal route did not match the session` -/
  | routeMismatch
  | unexpectedSignal (message : String)
  | terminal (reason : WebRtcTerminalReason) (message : Option String)
  /-- `native WebRTC answer was already sent for this session` -/
  | answerAlreadySent
  /-- `native WebRTC bootstrap request was not addressed to this endpoint` -/
  | notAddressed
  /-- The stream ended where a signal was expected. -/
  | streamEnded
  deriving DecidableEq

/-- The task of `spawn_local_ice_sender`. -/
inductive IceTask where
  | notSpawned
  | sending
  | stopped
  deriving DecidableEq, Repr

inductive DialerPhase where
  | request
  | offer
  /-- The loop of `receive_dialer_signals`. -/
  | receive (answered : Bool)
  /-- `ice.await`, after the loop has returned. -/
  | joinIce
  | done
  | failed (err : HandshakeError)
  deriving DecidableEq

inductive AnswererPhase where
  | request
  /-- The loop of `receive_answerer_signals`. -/
  | receive (offered : Bool)
  /-- The offer is applied, and the answer is about to be sent. -/
  | answer
  /-- `ice.await`, before the loop returns. -/
  | joinIce
  | done
  /-- The request wants no WebRTC, and the handler returns. -/
  | declined
  | failed (err : HandshakeError)
  deriving DecidableEq

/-- One direction of the bootstrap stream. -/
structure SignalStream (E : Type*) where
  inFlight : List (WebRtcSignal E)
  finished : Bool

namespace SignalStream

variable {E : Type*}

def empty : SignalStream E := ⟨[], false⟩

def send (stream : SignalStream E) (signal : WebRtcSignal E) : SignalStream E :=
  { stream with inFlight := stream.inFlight ++ [signal] }

end SignalStream

/-- The dialer: its phase, the calls it has made, its ICE task and what that has still to read. -/
structure Dialer where
  phase : DialerPhase
  applied : List RtcCall
  ice : IceTask
  localIce : List LocalIceEvent

/-- The answerer; the coordinator is there once the request was read. -/
structure Answerer (E : Type*) where
  endpointId : E
  coordinator : Option (DialCoordinator E)
  phase : AnswererPhase
  applied : List RtcCall
  ice : IceTask
  localIce : List LocalIceEvent

structure HandshakeState (E : Type*) where
  dialer : Dialer
  answerer : Answerer E
  toAnswerer : SignalStream E
  toDialer : SignalStream E

/-- The steps of the four tasks. -/
inductive HandshakeEvent where
  | dialerRequest
  | dialerOffer
  | dialerRecv
  | dialerIce
  | dialerJoin
  | answererRecv
  | answererAnswer
  | answererIce
  | answererJoin
  deriving DecidableEq, Repr

namespace Handshake

variable {E : Type*}

/-- The state after the bootstrap channel was opened. -/
def start (h : Handshake E) : HandshakeState E where
  dialer := ⟨.request, [], .notSpawned, h.dialerIce.events⟩
  answerer := ⟨h.coordinator.remote, none, .request, [], .notSpawned, h.answererIce.events⟩
  toAnswerer := .empty
  toDialer := .empty

/-- The dial request of the session. -/
def request (h : Handshake E) : WebRtcSignal E :=
  .dialRequest h.coordinator.dialId h.coordinator.localId h.coordinator.remote
    h.coordinator.generation h.alpn h.transportIntent

/-- One turn of the loop of `receive_dialer_signals`: the call that is made, and where the dialer
stands afterwards. -/
def receiveDialerSignal [DecidableEq E] (coordinator : DialCoordinator E) (answered : Bool)
    (signal : WebRtcSignal E) : Option RtcCall × DialerPhase :=
  if !coordinator.accepts signal then (none, .failed .routeMismatch)
  else
    match signal with
    | .answer _ _ _ _ sdp => (some (.applyDescription sdp), .receive true)
    | .iceCandidate _ _ _ _ candidate sdpMid sdpMlineIndex =>
      (some (.addIceCandidate ⟨candidate, sdpMid, sdpMlineIndex⟩), .receive answered)
    | .endOfCandidates .. =>
      (some .addEndOfCandidates, if answered then .joinIce else .receive answered)
    | .terminal _ _ _ _ reason message => (none, .failed (.terminal reason message))
    | _ => (none, .failed (.unexpectedSignal "unexpected native WebRTC answerer signal"))

/-- One turn of the loop of `receive_answerer_signals`, up to the sending of the answer.  The
sender is gone once the answer was sent, so a second offer is an error. -/
def receiveAnswererSignal [DecidableEq E] (coordinator : DialCoordinator E) (offered : Bool)
    (signal : WebRtcSignal E) : Option RtcCall × AnswererPhase :=
  if !coordinator.accepts signal then (none, .failed .routeMismatch)
  else
    match signal with
    | .offer _ _ _ _ sdp =>
      (some (.applyDescription sdp), if offered then .failed .answerAlreadySent else .answer)
    | .iceCandidate _ _ _ _ candidate sdpMid sdpMlineIndex =>
      (some (.addIceCandidate ⟨candidate, sdpMid, sdpMlineIndex⟩), .receive offered)
    | .endOfCandidates .. =>
      (some .addEndOfCandidates, if offered then .joinIce else .receive offered)
    | .terminal _ _ _ _ reason message => (none, .failed (.terminal reason message))
    | _ => (none, .failed (.unexpectedSignal "unexpected native WebRTC offerer signal"))

/-- The first part of `handle_bootstrap_connection`: the coordinator of the responder, or the
phase in which the handler ends. -/
def acceptRequest [DecidableEq E] (endpointId : E) (signal : WebRtcSignal E) :
    Option (DialCoordinator E) × AnswererPhase :=
  match signal with
  | .dialRequest dialId fromId toId generation _ transportIntent =>
    if toId ≠ endpointId then (none, .failed .notAddressed)
    else if !transportIntent.usesWebrtc then (none, .declined)
    else
      (some (.respondWithTransportIntent endpointId fromId generation dialId transportIntent),
        .receive false)
  | _ =>
    (none, .failed (.unexpectedSignal
      "first native WebRTC bootstrap signal was not a dial request"))

/-- One turn of `spawn_local_ice_sender`: the next local event is sent, and the task stops at
end-of-candidates, finishing the stream. -/
def sendLocalIce (coordinator : DialCoordinator E) (stream : SignalStream E) :
    List LocalIceEvent → Option (SignalStream E × IceTask × List LocalIceEvent)
  | [] => none
  | .candidate candidate :: rest =>
    some (stream.send (coordinator.iceCandidate candidate), .sending, rest)
  | .endOfCandidates :: rest =>
    some ({ stream.send coordinator.endOfCandidates with finished := true }, .stopped, rest)

variable [DecidableEq E]

/-- The next signal of the dialer's loop, or the end of the stream. -/
def dialerRecv (h : Handshake E) (s : HandshakeState E) (answered : Bool) :
    Option (HandshakeState E) :=
  match s.toDialer.inFlight with
  | signal :: inFlight =>
    let (call, phase) := receiveDialerSignal h.coordinator answered signal
    some { s with
      dialer := { s.dialer with phase := phase, applied := s.dialer.applied ++ call.toList }
      toDialer := { s.toDialer with inFlight := inFlight } }
  | [] =>
    if s.toDialer.finished then
      some { s with dialer := { s.dialer with phase := .failed .streamEnded } }
    else none

/-- The next signal of the answerer, the request or one of its loop, or the end of the stream. -/
def answererRecv (s : HandshakeState E) : Option (HandshakeState E) :=
  match s.answerer.phase, s.answerer.coordinator, s.toAnswerer.inFlight with
  | .request, _, signal :: inFlight =>
    let (coordinator, phase) := acceptRequest s.answerer.endpointId signal
    some { s with
      answerer := { s.answerer with coordinator := coordinator, phase := phase }
      toAnswerer := { s.toAnswerer with inFlight := inFlight } }
  | .receive offered, some coordinator, signal :: inFlight =>
    let (call, phase) := receiveAnswererSignal coordinator offered signal
    some { s with
      answerer := { s.answerer with phase := phase, applied := s.answerer.applied ++ call.toList }
      toAnswerer := { s.toAnswerer with inFlight := inFlight } }
  | .request, _, [] | .receive _, some _, [] =>
    if s.toAnswerer.finished then
      some { s with answerer := { s.answerer with phase := .failed .streamEnded } }
    else none
  | _, _, _ => none

def step (h : Handshake E) (s : HandshakeState E) : HandshakeEvent → Option (HandshakeState E)
  | .dialerRequest =>
    match s.dialer.phase with
    | .request =>
      some { s with
        dialer := { s.dialer with phase := .offer }
        toAnswerer := s.toAnswerer.send h.request }
    | _ => none
  | .dialerOffer =>
    match s.dialer.phase with
    | .offer =>
      some { s with
        dialer := { s.dialer with phase := .receive false, ice := .sending }
        toAnswerer := s.toAnswerer.send (h.coordinator.offer h.offerSdp) }
    | _ => none
  | .dialerRecv =>
    match s.dialer.phase with
    | .receive answered => h.dialerRecv s answered
    | _ => none
  | .dialerIce =>
    match s.dialer.ice with
    | .sending =>
      (sendLocalIce h.coordinator s.toAnswerer s.dialer.localIce).map
        fun (stream, ice, localIce) =>
          { s with
            dialer := { s.dialer with ice := ice, localIce := localIce }
            toAnswerer := stream }
    | _ => none
  | .dialerJoin =>
    match s.dialer.phase, s.dialer.ice with
    | .joinIce, .stopped => some { s with dialer := { s.dialer with phase := .done } }
    | _, _ => none
  | .answererRecv => answererRecv s
  | .answererAnswer =>
    match s.answerer.phase, s.answerer.coordinator with
    | .answer, some coordinator =>
      some { s with
        answerer := { s.answerer with phase := .receive true, ice := .sending }
        toDialer := s.toDialer.send (coordinator.answer h.answerSdp) }
    | _, _ => none
  | .answererIce =>
    match s.answerer.ice, s.answerer.coordinator with
    | .sending, some coordinator =>
      (sendLocalIce coordinator s.toDialer s.answerer.localIce).map
        fun (stream, ice, localIce) =>
          { s with
            answerer := { s.answerer with ice := ice, localIce := localIce }
            toDialer := stream }
    | _, _ => none
  | .answererJoin =>
    match s.answerer.phase, s.answerer.ice with
    | .joinIce, .stopped => some { s with answerer := { s.answerer with phase := .done } }
    | _, _ => none

/-- Both sides are done. -/
def Final (s : HandshakeState E) : Prop :=
  s.dialer.phase = .done ∧ s.answerer.phase = .done

end Handshake

/-! ## The script of a side

Both directions of the stream carry the same kind of thing: a description, the candidates in the
order in which they were gathered, and end-of-candidates.  A direction is followed by the calls that
its signals lead to.  What the receiver has applied, what is in flight and what is still unsent are
always the script of the sender in three parts. -/

/-- The calls a local ICE event leads to on the other side. -/
def RtcCall.ofIce : LocalIceEvent → RtcCall
  | .candidate candidate => .addIceCandidate candidate
  | .endOfCandidates => .addEndOfCandidates

/-- The local ICE events that are sent: those up to the first end-of-candidates. -/
def sentIce : List LocalIceEvent → List LocalIceEvent
  | [] => []
  | .candidate candidate :: rest => .candidate candidate :: sentIce rest
  | .endOfCandidates :: _ => [.endOfCandidates]

/-- What the other side applies in the end. -/
def callScript (sdp : String) (events : List LocalIceEvent) : List RtcCall :=
  .applyDescription sdp :: (sentIce events).map .ofIce

/-- What is still to be sent, by the state of the ICE task: the task is spawned when the description
is sent. -/
def unsentCalls (sdp : String) : IceTask → List LocalIceEvent → List RtcCall
  | .notSpawned, events => callScript sdp events
  | .sending, events => (sentIce events).map .ofIce
  | .stopped, _ => []

theorem sentIce_eq_append {events : List LocalIceEvent} (h : .endOfCandidates ∈ events) :
    ∃ front, sentIce events = front ++ [.endOfCandidates] ∧ .endOfCandidates ∉ front := by
  induction events with
  | nil => exact absurd h (by simp)
  | cons event rest ih =>
    cases event with
    | candidate candidate =>
      have hrest : .endOfCandidates ∈ rest := by simpa using h
      obtain ⟨front, hsent, hfront⟩ := ih hrest
      exact ⟨.candidate candidate :: front, by rw [sentIce, hsent, List.cons_append],
        by simpa using hfront⟩
    | endOfCandidates => exact ⟨[], rfl, by simp⟩

theorem LocalIceScript.end_mem (script : LocalIceScript) : .endOfCandidates ∈ script.events :=
  List.mem_of_getLast? script.ends

/-- End-of-candidates stands only at the end of a script: once it is applied, everything is. -/
theorem eq_callScript_of_end_mem {sdp : String} {script : LocalIceScript}
    {applied rest : List RtcCall} (h : applied ++ rest = callScript sdp script.events)
    (hend : .addEndOfCandidates ∈ applied) : rest = [] := by
  obtain ⟨front, hsent, hfront⟩ := sentIce_eq_append script.end_mem
  have hscript : applied ++ rest =
      (.applyDescription sdp :: front.map .ofIce) ++ [.addEndOfCandidates] := by
    rw [h, callScript, hsent, List.map_append, List.cons_append]
    rfl
  have hnot : RtcCall.addEndOfCandidates ∉ RtcCall.applyDescription sdp :: front.map .ofIce := by
    rw [List.mem_cons, not_or]
    refine ⟨by simp, fun hmem => ?_⟩
    obtain ⟨event, hevent, heq⟩ := List.mem_map.mp hmem
    cases event with
    | candidate candidate => exact absurd heq (by simp [RtcCall.ofIce])
    | endOfCandidates => exact hfront hevent
  rcases List.append_eq_append_iff.mp hscript with ⟨as, hfront', -⟩ | ⟨cs, hcs, hrest⟩
  · exact absurd (hfront' ▸ List.mem_append_left _ hend) hnot
  · cases cs with
    | nil =>
      rw [hcs, List.append_nil] at hend
      exact absurd hend hnot
    | cons c cs =>
      rw [List.cons_append] at hrest
      exact (List.append_eq_nil_iff.mp (List.cons.inj hrest).2.symm).2

/-- The next call of a script: the description first, an ICE call after it. -/
theorem next_of_callScript {sdp : String} {events : List LocalIceEvent}
    {applied rest : List RtcCall} {call : RtcCall}
    (h : applied ++ call :: rest = callScript sdp events) :
    (applied = [] ∧ call = .applyDescription sdp) ∨
      (applied ≠ [] ∧ ∃ event, call = .ofIce event) := by
  cases applied with
  | nil => exact Or.inl ⟨rfl, (List.cons.inj h).1⟩
  | cons a applied =>
    have hmem : call ∈ (sentIce events).map RtcCall.ofIce := by
      rw [← (List.cons.inj h).2]
      simp
    obtain ⟨event, -, rfl⟩ := List.mem_map.mp hmem
    exact Or.inr ⟨by simp, event, rfl⟩

/-! ## Signals and calls -/

namespace DialCoordinator

variable {E : Type*}

/-- The coordinator of the other side. -/
def mirror (c : DialCoordinator E) : DialCoordinator E :=
  ⟨c.remote, c.localId, c.dialId, c.generation⟩

/-- The signal that leads to a call; `describe` builds the one with the description. -/
def callSignal (c : DialCoordinator E) (describe : String → WebRtcSignal E) :
    RtcCall → WebRtcSignal E
  | .applyDescription sdp => describe sdp
  | .addIceCandidate candidate => c.iceCandidate candidate
  | .addEndOfCandidates => c.endOfCandidates

/-- A task that sends has a signal to send, the one of the next call of its script. -/
theorem sendLocalIce_spec (c : DialCoordinator E) (describe : String → WebRtcSignal E)
    (stream : SignalStream E) {events : List LocalIceEvent} (h : .endOfCandidates ∈ events) :
    ∃ call ice rest, Handshake.sendLocalIce c stream events =
        some (⟨stream.inFlight ++ [c.callSignal describe call],
          stream.finished || ice = .stopped⟩, ice, rest) ∧
      (∀ sdp, (sentIce events).map RtcCall.ofIce = call :: unsentCalls sdp ice rest) ∧
      ice ≠ .notSpawned ∧ (ice ≠ .stopped → .endOfCandidates ∈ rest) := by
  cases events with
  | nil => exact absurd h (by simp)
  | cons event rest =>
    cases event with
    | candidate candidate =>
      refine ⟨.addIceCandidate candidate, .sending, rest, ?_, fun sdp => rfl, by simp, fun _ => ?_⟩
      · simp [Handshake.sendLocalIce, SignalStream.send, callSignal]
      · simpa using h
    | endOfCandidates =>
      refine ⟨.addEndOfCandidates, .stopped, rest, ?_, fun sdp => rfl, by simp, by simp⟩
      simp [Handshake.sendLocalIce, SignalStream.send, callSignal]

variable [DecidableEq E]

theorem accepts_callSignal (c : DialCoordinator E) (call : RtcCall) :
    c.accepts (c.mirror.callSignal c.mirror.answer call) = true ∧
      c.mirror.accepts (c.callSignal c.offer call) = true := by
  cases call <;>
    simp [callSignal, accepts, mirror, answer, offer, iceCandidate, endOfCandidates,
      WebRtcSignal.isFor, WebRtcSignal.dialId, WebRtcSignal.generation, WebRtcSignal.toId,
      WebRtcSignal.fromId]

/-- The dialer's loop on the signals of its answerer. -/
theorem receiveDialerSignal_callSignal (c : DialCoordinator E) (answered : Bool) (call : RtcCall) :
    Handshake.receiveDialerSignal c answered (c.mirror.callSignal c.mirror.answer call) =
      (some call,
        match call with
        | .applyDescription _ => .receive true
        | .addIceCandidate _ => .receive answered
        | .addEndOfCandidates => if answered then .joinIce else .receive answered) := by
  have haccepts := (c.accepts_callSignal call).1
  unfold Handshake.receiveDialerSignal
  rw [haccepts]
  cases call <;> rfl

/-- The answerer's loop on the signals of its dialer. -/
theorem receiveAnswererSignal_callSignal (c : DialCoordinator E) (offered : Bool) (call : RtcCall) :
    Handshake.receiveAnswererSignal c.mirror offered (c.callSignal c.offer call) =
      (some call,
        match call with
        | .applyDescription _ => if offered then .failed .answerAlreadySent else .answer
        | .addIceCandidate _ => .receive offered
        | .addEndOfCandidates => if offered then .joinIce else .receive offered) := by
  have haccepts := (c.accepts_callSignal call).2
  unfold Handshake.receiveAnswererSignal
  rw [haccepts]
  cases call <;> rfl

end DialCoordinator

/-! ## The invariant -/

/-- What is applied, what is in flight and what is unsent are the script. -/
def Conveys (script applied queue unsent : List RtcCall) : Prop :=
  applied ++ queue ++ unsent = script

theorem Conveys.send {script applied queue unsent : List RtcCall} {call : RtcCall}
    (h : Conveys script applied queue (call :: unsent)) :
    Conveys script applied (queue ++ [call]) unsent := by
  rw [← h, Conveys]
  simp

theorem Conveys.receive {script applied queue unsent : List RtcCall} {call : RtcCall}
    (h : Conveys script applied (call :: queue) unsent) :
    Conveys script (applied ++ [call]) queue unsent := by
  rw [← h, Conveys]
  simp

namespace Handshake

variable {E : Type*}

/-- What the phase of the dialer says about the calls it has made and its ICE task. -/
def DialerGood (d : Dialer) : Prop :=
  match d.phase with
  | .request | .offer => d.ice = .notSpawned ∧ d.applied = []
  | .receive answered =>
    d.ice ≠ .notSpawned ∧ (answered = true ↔ d.applied ≠ []) ∧ .addEndOfCandidates ∉ d.applied
  | .joinIce => d.ice ≠ .notSpawned ∧ .addEndOfCandidates ∈ d.applied
  | .done => d.ice = .stopped ∧ .addEndOfCandidates ∈ d.applied
  | .failed _ => False

/-- What the phase of the answerer says. -/
def AnswererGood (h : Handshake E) (a : Answerer E) : Prop :=
  match a.phase with
  | .request => a.endpointId = h.coordinator.remote ∧ a.ice = .notSpawned ∧ a.applied = []
  | .receive offered =>
    a.coordinator = some h.coordinator.mirror ∧ (offered = true ↔ a.applied ≠ []) ∧
      (offered = true ↔ a.ice ≠ .notSpawned) ∧ .addEndOfCandidates ∉ a.applied
  | .answer =>
    a.coordinator = some h.coordinator.mirror ∧ a.ice = .notSpawned ∧ a.applied ≠ [] ∧
      .addEndOfCandidates ∉ a.applied
  | .joinIce =>
    a.coordinator = some h.coordinator.mirror ∧ a.ice ≠ .notSpawned ∧
      .addEndOfCandidates ∈ a.applied
  | .done => a.ice = .stopped ∧ .addEndOfCandidates ∈ a.applied
  | .declined | .failed _ => False

/-- While a task sends, the phase does not tell how far it is. -/
theorem DialerGood.of_sending {d : Dialer} {ice : IceTask} {localIce : List LocalIceEvent}
    (hg : DialerGood d) (hsending : d.ice = .sending) (hne : ice ≠ .notSpawned) :
    DialerGood { d with ice := ice, localIce := localIce } := by
  rw [DialerGood] at hg ⊢
  cases hphase : d.phase with
  | request | offer | done | failed => simp [hphase, hsending] at hg
  | receive | joinIce =>
    rw [hphase] at hg
    exact ⟨hne, hg.2⟩

theorem AnswererGood.of_sending {h : Handshake E} {a : Answerer E} {ice : IceTask}
    {localIce : List LocalIceEvent} (hg : h.AnswererGood a) (hsending : a.ice = .sending)
    (hne : ice ≠ .notSpawned) : h.AnswererGood { a with ice := ice, localIce := localIce } := by
  rw [AnswererGood] at hg ⊢
  cases hphase : a.phase with
  | request | answer | done | declined | failed => simp [hphase, hsending] at hg
  | receive offered =>
    rw [hphase] at hg
    exact ⟨hg.1, hg.2.1, iff_of_true (hg.2.2.1.mpr (by simp [hsending])) hne, hg.2.2.2⟩
  | joinIce =>
    rw [hphase] at hg
    exact ⟨hg.1, hne, hg.2.2⟩

/-- The part of the stream to the answerer that is not a call: the request, between its sending
and its reading. -/
def requestInFlight (h : Handshake E) (d : DialerPhase) (a : AnswererPhase) :
    List (WebRtcSignal E) :=
  if d ≠ .request ∧ a = .request then [h.request] else []

/-- The invariant of the handshake. -/
structure Good (h : Handshake E) (s : HandshakeState E) : Prop where
  toAnswerer : ∃ queue,
    s.toAnswerer.inFlight =
      h.requestInFlight s.dialer.phase s.answerer.phase ++
        queue.map (h.coordinator.callSignal h.coordinator.offer) ∧
    Conveys (callScript h.offerSdp h.dialerIce.events) s.answerer.applied queue
      (unsentCalls h.offerSdp s.dialer.ice s.dialer.localIce)
  toDialer : ∃ queue,
    s.toDialer.inFlight =
      queue.map (h.coordinator.mirror.callSignal h.coordinator.mirror.answer) ∧
    Conveys (callScript h.answerSdp h.answererIce.events) s.dialer.applied queue
      (unsentCalls h.answerSdp s.answerer.ice s.answerer.localIce)
  toAnswerer_finished : s.toAnswerer.finished = true ↔ s.dialer.ice = .stopped
  toDialer_finished : s.toDialer.finished = true ↔ s.answerer.ice = .stopped
  dialerLocal : s.dialer.ice = .notSpawned → s.dialer.localIce = h.dialerIce.events
  answererLocal : s.answerer.ice = .notSpawned → s.answerer.localIce = h.answererIce.events
  dialerIce : s.dialer.ice ≠ .stopped → .endOfCandidates ∈ s.dialer.localIce
  answererIce : s.answerer.ice ≠ .stopped → .endOfCandidates ∈ s.answerer.localIce
  requested : s.dialer.phase = .request → s.answerer.phase = .request
  dialer : DialerGood s.dialer
  answerer : h.AnswererGood s.answerer

theorem good_start (h : Handshake E) : h.Good h.start where
  toAnswerer := ⟨[], rfl, by simp [Conveys, start, unsentCalls]⟩
  toDialer := ⟨[], rfl, by simp [Conveys, start, unsentCalls]⟩
  toAnswerer_finished := by simp [start, SignalStream.empty]
  toDialer_finished := by simp [start, SignalStream.empty]
  dialerLocal := fun _ => rfl
  answererLocal := fun _ => rfl
  dialerIce := fun _ => h.dialerIce.end_mem
  answererIce := fun _ => h.answererIce.end_mem
  requested := fun _ => rfl
  dialer := ⟨rfl, rfl⟩
  answerer := ⟨rfl, rfl, rfl⟩

/-! ## The steps of the dialer -/

/-- Before the task is spawned nothing of the script has left. -/
theorem nil_of_conveys_self {script applied queue : List RtcCall}
    (h : Conveys script applied queue script) : applied = [] ∧ queue = [] := by
  have hlen := congrArg List.length h
  rw [List.length_append, List.length_append] at hlen
  exact ⟨List.length_eq_zero_iff.mp (by omega), List.length_eq_zero_iff.mp (by omega)⟩

theorem end_mem_callScript {sdp : String} (script : LocalIceScript) :
    .addEndOfCandidates ∈ callScript sdp script.events := by
  obtain ⟨front, hsent, -⟩ := sentIce_eq_append script.end_mem
  rw [callScript, hsent]
  simp [RtcCall.ofIce]

section DialerSteps

variable [DecidableEq E] {h : Handshake E} {s t : HandshakeState E}

omit [DecidableEq E] in
theorem requestInFlight_congr {d e : DialerPhase} {a : AnswererPhase} (hd : d ≠ .request)
    (he : e ≠ .request) : h.requestInFlight d a = h.requestInFlight e a := by
  simp [requestInFlight, hd, he]

omit [DecidableEq E] in
/-- While the dialer's task is not spawned, nothing of its script is under way. -/
theorem Good.toAnswerer_nil (hg : h.Good s) (hice : s.dialer.ice = .notSpawned) :
    s.toAnswerer.inFlight = h.requestInFlight s.dialer.phase s.answerer.phase := by
  obtain ⟨queue, hq, hconv⟩ := hg.toAnswerer
  rw [hice, hg.dialerLocal hice] at hconv
  rw [hq, (nil_of_conveys_self hconv).2, List.map_nil, List.append_nil]

theorem Good.dialerRequest (hg : h.Good s) (hs : h.step s .dialerRequest = some t) :
    h.Good t := by
  rw [step] at hs
  split at hs
  · rename_i hphase
    obtain rfl := Option.some.inj hs
    have hans := hg.requested hphase
    have hdialer := hg.dialer
    rw [DialerGood, hphase] at hdialer
    have hnil := hg.toAnswerer_nil hdialer.1
    obtain ⟨queue, hq, hconv⟩ := hg.toAnswerer
    have hqueue : queue = [] := by
      rw [hdialer.1, hg.dialerLocal hdialer.1] at hconv
      exact (nil_of_conveys_self hconv).2
    refine { hg with
      toAnswerer := ⟨queue, ?_, hconv⟩
      requested := fun h => absurd h (by simp)
      dialer := hdialer }
    simp [SignalStream.send, hnil, requestInFlight, hphase, hans, hqueue]
  · exact absurd hs (by simp)

theorem Good.dialerOffer (hg : h.Good s) (hs : h.step s .dialerOffer = some t) : h.Good t := by
  rw [step] at hs
  split at hs
  · rename_i hphase
    obtain rfl := Option.some.inj hs
    have hdialer := hg.dialer
    rw [DialerGood, hphase] at hdialer
    obtain ⟨queue, hq, hconv⟩ := hg.toAnswerer
    rw [hdialer.1] at hconv
    have hice := hg.dialerIce (by simp [hdialer.1])
    refine { hg with
      toAnswerer := ⟨queue ++ [.applyDescription h.offerSdp], ?_, hconv.send⟩
      toAnswerer_finished := ?_
      dialerLocal := fun h => absurd h (by simp)
      dialerIce := fun _ => hice
      requested := fun h => absurd h (by simp)
      dialer := ⟨by simp, by simp [hdialer.2], by simp [hdialer.2]⟩ }
    · simp [SignalStream.send, hq, requestInFlight, hphase, DialCoordinator.callSignal]
    · have hfin := hg.toAnswerer_finished
      simp [SignalStream.send, hfin, hdialer.1]
  · exact absurd hs (by simp)

theorem Good.dialerIceStep (hg : h.Good s) (hs : h.step s .dialerIce = some t) : h.Good t := by
  rw [step] at hs
  split at hs
  · rename_i hice
    obtain ⟨call, ice, rest, hsend, hscript, hne, hend⟩ :=
      h.coordinator.sendLocalIce_spec h.coordinator.offer s.toAnswerer
        (hg.dialerIce (by simp [hice]))
    rw [hsend] at hs
    obtain rfl := Option.some.inj hs
    obtain ⟨queue, hq, hconv⟩ := hg.toAnswerer
    have hdialer := hg.dialer
    have hfin : s.toAnswerer.finished = false := by
      have := hg.toAnswerer_finished
      simpa [hice] using this
    rw [hice, unsentCalls, hscript h.offerSdp] at hconv
    refine { hg with
      toAnswerer := ⟨queue ++ [call], ?_, hconv.send⟩
      toAnswerer_finished := ?_
      dialerLocal := fun h => absurd h hne
      dialerIce := hend
      dialer := ?_ }
    · simp [hq]
    · simp [hfin]
    · exact hdialer.of_sending hice hne
  · exact absurd hs (by simp)

theorem Good.dialerJoin (hg : h.Good s) (hs : h.step s .dialerJoin = some t) : h.Good t := by
  rw [step] at hs
  split at hs
  · rename_i hphase hice
    obtain rfl := Option.some.inj hs
    have hdialer := hg.dialer
    rw [DialerGood, hphase] at hdialer
    obtain ⟨queue, hq, hconv⟩ := hg.toAnswerer
    refine { hg with
      toAnswerer := ⟨queue, ?_, hconv⟩
      requested := fun h => absurd h (by simp)
      dialer := ⟨hice, hdialer.2⟩ }
    simpa [requestInFlight, hphase] using hq
  · exact absurd hs (by simp)

theorem Good.dialerRecvStep (hg : h.Good s) (hs : h.step s .dialerRecv = some t) : h.Good t := by
  rw [step] at hs
  split at hs
  · rename_i answered hphase
    have hdialer := hg.dialer
    rw [DialerGood, hphase] at hdialer
    obtain ⟨hice, hanswered, hnoend⟩ := hdialer
    obtain ⟨queue, hq, hconv⟩ := hg.toDialer
    obtain ⟨queueA, hqA, hconvA⟩ := hg.toAnswerer
    cases queue with
    | nil =>
      -- the stream has not ended: end-of-candidates would have been applied
      rw [List.map_nil] at hq
      simp only [Handshake.dialerRecv, hq] at hs
      split_ifs at hs with hfin
      have hstop := hg.toDialer_finished.mp hfin
      rw [hstop, Conveys, unsentCalls, List.append_nil, List.append_nil] at hconv
      exact absurd (hconv ▸ end_mem_callScript h.answererIce) hnoend
    | cons call queue =>
      rw [List.map_cons] at hq
      simp only [Handshake.dialerRecv, hq, h.coordinator.receiveDialerSignal_callSignal] at hs
      obtain rfl := Option.some.inj hs
      have hnext := next_of_callScript ((List.append_assoc ..).symm.trans hconv)
      have hgood : ∀ phase, phase ≠ .request →
          DialerGood ⟨phase, s.dialer.applied ++ [call], s.dialer.ice, s.dialer.localIce⟩ →
          h.Good { s with
            dialer := ⟨phase, s.dialer.applied ++ [call], s.dialer.ice, s.dialer.localIce⟩
            toDialer := ⟨queue.map (h.coordinator.mirror.callSignal h.coordinator.mirror.answer),
              s.toDialer.finished⟩ } := by
        intro phase hphase' hdialer
        refine { hg with
          toAnswerer := ⟨queueA, ?_, hconvA⟩
          toDialer := ⟨queue, rfl, hconv.receive⟩
          requested := fun h => absurd h hphase'
          dialer := hdialer }
        rw [hqA, requestInFlight_congr (e := phase) (by simp [hphase]) hphase']
      rcases hnext with ⟨hnil, rfl⟩ | ⟨hne, event, rfl⟩
      · exact hgood _ (by simp) ⟨hice, by simp, by simp [hnil]⟩
      · have htrue := hanswered.mpr hne
        cases event with
        | candidate candidate =>
          refine hgood _ (by simp [RtcCall.ofIce]) ⟨hice, by simp [htrue], ?_⟩
          simpa [RtcCall.ofIce] using hnoend
        | endOfCandidates =>
          simp only [RtcCall.ofIce, htrue, if_true] at hgood ⊢
          exact hgood _ (by simp) ⟨hice, by simp⟩
  · exact absurd hs (by simp)

end DialerSteps

/-! ## The steps of the answerer -/

section AnswererSteps

variable [DecidableEq E] {h : Handshake E} {s t : HandshakeState E}

omit [DecidableEq E] in
theorem requestInFlight_eq_nil {d : DialerPhase} {a : AnswererPhase} (ha : a ≠ .request) :
    h.requestInFlight d a = [] := by
  simp [requestInFlight, ha]

omit [DecidableEq E] in
/-- The dialer has sent its request once the answerer is past it. -/
theorem Good.not_requested (hg : h.Good s) (hphase : s.answerer.phase ≠ .request) :
    s.dialer.phase ≠ .request := fun hd => hphase (hg.requested hd)

theorem Good.answererAnswer (hg : h.Good s) (hs : h.step s .answererAnswer = some t) :
    h.Good t := by
  rw [step] at hs
  split at hs
  · rename_i coordinator hphase hcoord
    obtain rfl := Option.some.inj hs
    have hanswerer := hg.answerer
    rw [AnswererGood, hphase] at hanswerer
    obtain ⟨hmirror, hice, hne, hnoend⟩ := hanswerer
    obtain rfl : coordinator = h.coordinator.mirror := Option.some.inj (hcoord.symm.trans hmirror)
    obtain ⟨queueA, hqA, hconvA⟩ := hg.toAnswerer
    obtain ⟨queue, hq, hconv⟩ := hg.toDialer
    rw [hice] at hconv
    have hend := hg.answererIce (by simp [hice])
    have hd := hg.not_requested (by simp [hphase])
    refine { hg with
      toAnswerer := ⟨queueA, ?_, hconvA⟩
      toDialer := ⟨queue ++ [.applyDescription h.answerSdp], ?_, hconv.send⟩
      toDialer_finished := ?_
      answererLocal := fun h => absurd h (by simp)
      answererIce := fun _ => hend
      requested := fun h => absurd h hd
      answerer := ⟨hcoord, by simp [hne], by simp, hnoend⟩ }
    · rw [hqA, requestInFlight_eq_nil (by simp [hphase]), requestInFlight_eq_nil (by simp)]
    · simp [SignalStream.send, hq, DialCoordinator.callSignal]
    · have hfin := hg.toDialer_finished
      simp [SignalStream.send, hfin, hice]
  · exact absurd hs (by simp)

theorem Good.answererIceStep (hg : h.Good s) (hs : h.step s .answererIce = some t) :
    h.Good t := by
  rw [step] at hs
  split at hs
  · rename_i coordinator hice hcoord
    have hanswerer := hg.answerer
    have hmirror : coordinator = h.coordinator.mirror := by
      rw [AnswererGood] at hanswerer
      cases hphase : s.answerer.phase <;> simp_all
    subst hmirror
    obtain ⟨call, ice, rest, hsend, hscript, hne, hend⟩ :=
      h.coordinator.mirror.sendLocalIce_spec h.coordinator.mirror.answer s.toDialer
        (hg.answererIce (by simp [hice]))
    rw [hsend] at hs
    obtain rfl := Option.some.inj hs
    obtain ⟨queue, hq, hconv⟩ := hg.toDialer
    have hfin : s.toDialer.finished = false := by
      have := hg.toDialer_finished
      simpa [hice] using this
    rw [hice, unsentCalls, hscript h.answerSdp] at hconv
    refine { hg with
      toDialer := ⟨queue ++ [call], ?_, hconv.send⟩
      toDialer_finished := ?_
      answererLocal := fun h => absurd h hne
      answererIce := hend
      answerer := ?_ }
    · simp [hq]
    · simp [hfin]
    · exact hanswerer.of_sending hice hne
  · exact absurd hs (by simp)

theorem Good.answererJoin (hg : h.Good s) (hs : h.step s .answererJoin = some t) : h.Good t := by
  rw [step] at hs
  split at hs
  · rename_i hphase hice
    obtain rfl := Option.some.inj hs
    have hanswerer := hg.answerer
    rw [AnswererGood, hphase] at hanswerer
    obtain ⟨queue, hq, hconv⟩ := hg.toAnswerer
    have hd := hg.not_requested (by simp [hphase])
    refine { hg with
      toAnswerer := ⟨queue, ?_, hconv⟩
      requested := fun h => absurd h hd
      answerer := ⟨hice, hanswerer.2.2⟩ }
    rw [hq, requestInFlight_eq_nil (by simp [hphase]), requestInFlight_eq_nil (by simp)]
  · exact absurd hs (by simp)

/-- The answerer reads the request of its dialer. -/
theorem acceptRequest_request (h : Handshake E) :
    acceptRequest h.coordinator.remote h.request =
      (some h.coordinator.mirror, .receive false) := by
  simp [acceptRequest, request, h.usesWebrtc, DialCoordinator.respondWithTransportIntent,
    DialCoordinator.mirror]

/-- The first signal is the request, and the stream does not end before it. -/
theorem Good.answererRecv_request (hg : h.Good s) (hphase : s.answerer.phase = .request)
    (hs : answererRecv s = some t) : h.Good t := by
  have hanswerer := hg.answerer
  rw [AnswererGood, hphase] at hanswerer
  obtain ⟨hid, hice, hnil⟩ := hanswerer
  obtain ⟨queue, hq, hconv⟩ := hg.toAnswerer
  by_cases hd : s.dialer.phase = .request
  · -- nothing was sent yet
    have hdialer := hg.dialer
    rw [DialerGood, hd] at hdialer
    have hempty := hg.toAnswerer_nil hdialer.1
    rw [requestInFlight, if_neg (by simp [hd])] at hempty
    have hfin : s.toAnswerer.finished = false := by
      have := hg.toAnswerer_finished
      simpa [hdialer.1] using this
    simp [answererRecv, hphase, hempty, hfin] at hs
  · rw [requestInFlight, if_pos ⟨hd, hphase⟩, List.singleton_append] at hq
    simp only [answererRecv, hphase, hq, hid, acceptRequest_request] at hs
    obtain rfl := Option.some.inj hs
    refine { hg with
      toAnswerer := ⟨queue, ?_, hconv⟩
      requested := fun h => absurd h hd
      answerer := ⟨rfl, by simp [hnil], by simp [hice], by simp [hnil]⟩ }
    rw [requestInFlight_eq_nil (by simp), List.nil_append]

theorem Good.answererRecv_signal (hg : h.Good s) {offered : Bool}
    (hphase : s.answerer.phase = .receive offered) (hs : answererRecv s = some t) : h.Good t := by
  have hanswerer := hg.answerer
  rw [AnswererGood, hphase] at hanswerer
  obtain ⟨hcoord, hoffered, hice, hnoend⟩ := hanswerer
  obtain ⟨queue, hq, hconv⟩ := hg.toAnswerer
  rw [requestInFlight_eq_nil (by simp [hphase]), List.nil_append] at hq
  cases queue with
  | nil =>
    rw [List.map_nil] at hq
    simp only [answererRecv, hphase, hcoord, hq] at hs
    split_ifs at hs with hfin
    have hstop := hg.toAnswerer_finished.mp hfin
    rw [hstop, Conveys, unsentCalls, List.append_nil, List.append_nil] at hconv
    exact absurd (hconv ▸ end_mem_callScript h.dialerIce) hnoend
  | cons call queue =>
    rw [List.map_cons] at hq
    simp only [answererRecv, hphase, hcoord, hq,
      h.coordinator.receiveAnswererSignal_callSignal] at hs
    obtain rfl := Option.some.inj hs
    have hnext := next_of_callScript ((List.append_assoc ..).symm.trans hconv)
    have hd := hg.not_requested (by simp [hphase])
    have hgood : ∀ phase, phase ≠ .request →
        h.AnswererGood ⟨s.answerer.endpointId, some h.coordinator.mirror, phase,
          s.answerer.applied ++ [call], s.answerer.ice, s.answerer.localIce⟩ →
        h.Good { s with
          answerer := ⟨s.answerer.endpointId, some h.coordinator.mirror, phase,
            s.answerer.applied ++ [call], s.answerer.ice, s.answerer.localIce⟩
          toAnswerer := ⟨queue.map (h.coordinator.callSignal h.coordinator.offer),
            s.toAnswerer.finished⟩ } := by
      intro phase hphase' hanswerer
      refine { hg with
        toAnswerer := ⟨queue, ?_, hconv.receive⟩
        requested := fun h => absurd h hd
        answerer := hanswerer }
      rw [requestInFlight_eq_nil hphase', List.nil_append]
    rcases hnext with ⟨hnil, rfl⟩ | ⟨hne, event, rfl⟩
    · have hfalse : offered = false := by
        cases offered with
        | false => rfl
        | true => exact absurd hnil (hoffered.mp rfl)
      have hspawn : s.answerer.ice = .notSpawned := by
        by_contra hnot
        exact absurd (hice.mpr hnot) (by simp [hfalse])
      subst hfalse
      exact hgood _ (by simp) ⟨rfl, hspawn, by simp, by simp [hnil]⟩
    · have htrue := hoffered.mpr hne
      cases event with
      | candidate candidate =>
        refine hgood _ (by simp [RtcCall.ofIce]) ⟨rfl, by simp [htrue], hice, ?_⟩
        simpa [RtcCall.ofIce] using hnoend
      | endOfCandidates =>
        simp only [RtcCall.ofIce, htrue, if_true] at hgood ⊢
        exact hgood _ (by simp) ⟨rfl, hice.mp htrue, by simp⟩

theorem Good.answererRecvStep (hg : h.Good s) (hs : h.step s .answererRecv = some t) :
    h.Good t := by
  rw [step] at hs
  cases hphase : s.answerer.phase with
  | request => exact hg.answererRecv_request hphase hs
  | receive offered => exact hg.answererRecv_signal hphase hs
  | answer | joinIce | done | declined | failed => simp [answererRecv, hphase] at hs

end AnswererSteps

/-! ## Runs -/

section Runs

variable [DecidableEq E] {h : Handshake E} {s t : HandshakeState E}

theorem Good.step (hg : h.Good s) {event : HandshakeEvent} (hs : h.step s event = some t) :
    h.Good t := by
  cases event with
  | dialerRequest => exact hg.dialerRequest hs
  | dialerOffer => exact hg.dialerOffer hs
  | dialerRecv => exact hg.dialerRecvStep hs
  | dialerIce => exact hg.dialerIceStep hs
  | dialerJoin => exact hg.dialerJoin hs
  | answererRecv => exact hg.answererRecvStep hs
  | answererAnswer => exact hg.answererAnswer hs
  | answererIce => exact hg.answererIceStep hs
  | answererJoin => exact hg.answererJoin hs

theorem good_of_run {events : List HandshakeEvent}
    (hrun : Runs.run h.step h.start events = some s) : h.Good s :=
  Runs.run_invariant (fun _ _ _ hg hs => hg.step hs) h.good_start hrun

omit [DecidableEq E] in
/-- A side past its loop has applied the whole script of the other. -/
theorem Good.dialer_applied (hg : h.Good s)
    (hphase : s.dialer.phase = .joinIce ∨ s.dialer.phase = .done) :
    s.dialer.applied = callScript h.answerSdp h.answererIce.events := by
  obtain ⟨queue, -, hconv⟩ := hg.toDialer
  have hend : .addEndOfCandidates ∈ s.dialer.applied := by
    have hdialer := hg.dialer
    rcases hphase with hphase | hphase <;> rw [DialerGood, hphase] at hdialer
    · exact hdialer.2
    · exact hdialer.2
  rw [Conveys, List.append_assoc] at hconv
  have hnil := eq_callScript_of_end_mem hconv hend
  rw [← hconv, hnil, List.append_nil]

omit [DecidableEq E] in
theorem Good.answerer_applied (hg : h.Good s)
    (hphase : s.answerer.phase = .joinIce ∨ s.answerer.phase = .done) :
    s.answerer.applied = callScript h.offerSdp h.dialerIce.events := by
  obtain ⟨queue, -, hconv⟩ := hg.toAnswerer
  have hend : .addEndOfCandidates ∈ s.answerer.applied := by
    have hanswerer := hg.answerer
    rcases hphase with hphase | hphase <;> rw [AnswererGood, hphase] at hanswerer
    · exact hanswerer.2.2
    · exact hanswerer.2
  rw [Conveys, List.append_assoc] at hconv
  have hnil := eq_callScript_of_end_mem hconv hend
  rw [← hconv, hnil, List.append_nil]

/-- A task that sends can send. -/
theorem Good.exists_dialerIce (hg : h.Good s) (hice : s.dialer.ice = .sending) :
    ∃ t, h.step s .dialerIce = some t := by
  obtain ⟨call, ice, rest, hsend, -⟩ :=
    h.coordinator.sendLocalIce_spec h.coordinator.offer s.toAnswerer
      (hg.dialerIce (by simp [hice]))
  rw [Handshake.step, hice]
  simp only [hsend]
  exact ⟨_, rfl⟩

theorem Good.exists_answererIce (hg : h.Good s) (hice : s.answerer.ice = .sending)
    (hcoord : s.answerer.coordinator = some h.coordinator.mirror) :
    ∃ t, h.step s .answererIce = some t := by
  obtain ⟨call, ice, rest, hsend, -⟩ :=
    h.coordinator.mirror.sendLocalIce_spec h.coordinator.mirror.answer s.toDialer
      (hg.answererIce (by simp [hice]))
  rw [Handshake.step, hice, hcoord]
  simp only [hsend]
  exact ⟨_, rfl⟩

/-- A loop can turn when the other side has sent everything. -/
theorem Good.exists_dialerRecv (hg : h.Good s) {answered : Bool}
    (hphase : s.dialer.phase = .receive answered) (hstop : s.answerer.ice = .stopped) :
    ∃ t, h.step s .dialerRecv = some t := by
  obtain ⟨queue, hq, hconv⟩ := hg.toDialer
  have hdialer := hg.dialer
  rw [DialerGood, hphase] at hdialer
  cases queue with
  | nil =>
    rw [hstop, Conveys, unsentCalls, List.append_nil, List.append_nil] at hconv
    exact absurd (hconv ▸ end_mem_callScript h.answererIce) hdialer.2.2
  | cons call queue =>
    rw [List.map_cons] at hq
    simp only [Handshake.step, hphase, Handshake.dialerRecv, hq]
    exact ⟨_, rfl⟩

theorem Good.exists_answererRecv (hg : h.Good s) (hd : s.dialer.phase ≠ .request)
    (hphase : s.answerer.phase = .request ∨ ∃ offered, s.answerer.phase = .receive offered)
    (hstop : s.dialer.ice = .stopped) : ∃ t, h.step s .answererRecv = some t := by
  obtain ⟨queue, hq, hconv⟩ := hg.toAnswerer
  have hanswerer := hg.answerer
  rcases hphase with hphase | ⟨offered, hphase⟩ <;> rw [AnswererGood, hphase] at hanswerer
  · rw [requestInFlight, if_pos ⟨hd, hphase⟩, List.singleton_append] at hq
    simp only [Handshake.step, answererRecv, hphase, hq]
    exact ⟨_, rfl⟩
  · rw [requestInFlight_eq_nil (by simp [hphase]), List.nil_append] at hq
    cases queue with
    | nil =>
      rw [hstop, Conveys, unsentCalls, List.append_nil, List.append_nil] at hconv
      exact absurd (hconv ▸ end_mem_callScript h.dialerIce) hanswerer.2.2.2
    | cons call queue =>
      rw [List.map_cons] at hq
      simp only [Handshake.step, answererRecv, hphase, hanswerer.1, hq]
      exact ⟨_, rfl⟩

/-- An ICE task that was spawned sends or has stopped. -/
theorem sending_or_stopped {ice : IceTask} (h : ice ≠ .notSpawned) :
    ice = .sending ∨ ice = .stopped := by
  cases ice <;> simp_all

/-- **No deadlock.**  Some task can move unless both sides are done. -/
theorem Good.exists_step (hg : h.Good s) (hfinal : ¬ Final s) :
    ∃ event t, h.step s event = some t := by
  have hdialer := hg.dialer
  have hanswerer := hg.answerer
  -- the dialer's own steps come first, down to where it can only wait
  have hspawned : (∃ event t, h.step s event = some t) ∨
      s.dialer.phase ≠ .request ∧ s.dialer.ice = .stopped := by
    cases hphase : s.dialer.phase with
    | request =>
      exact Or.inl ⟨.dialerRequest, by simp only [Handshake.step, hphase]; exact ⟨_, rfl⟩⟩
    | offer => exact Or.inl ⟨.dialerOffer, by simp only [Handshake.step, hphase]; exact ⟨_, rfl⟩⟩
    | failed => rw [DialerGood, hphase] at hdialer; exact hdialer.elim
    | receive | joinIce =>
      rw [DialerGood, hphase] at hdialer
      rcases sending_or_stopped hdialer.1 with hice | hice
      · exact Or.inl ⟨_, hg.exists_dialerIce hice⟩
      · exact Or.inr ⟨by simp, hice⟩
    | done =>
      rw [DialerGood, hphase] at hdialer
      exact Or.inr ⟨by simp, hdialer.1⟩
  rcases hspawned with hstep | ⟨hd, hstop⟩
  · exact hstep
  cases hphase : s.answerer.phase with
  | request => exact ⟨_, hg.exists_answererRecv hd (Or.inl hphase) hstop⟩
  | receive offered => exact ⟨_, hg.exists_answererRecv hd (Or.inr ⟨offered, hphase⟩) hstop⟩
  | declined | failed => rw [AnswererGood, hphase] at hanswerer; exact hanswerer.elim
  | answer =>
    rw [AnswererGood, hphase] at hanswerer
    refine ⟨.answererAnswer, ?_⟩
    simp only [Handshake.step, hphase, hanswerer.1]
    exact ⟨_, rfl⟩
  | joinIce =>
    rw [AnswererGood, hphase] at hanswerer
    rcases sending_or_stopped hanswerer.2.1 with hice | hice
    · exact ⟨_, hg.exists_answererIce hice hanswerer.1⟩
    · refine ⟨.answererJoin, ?_⟩
      simp only [Handshake.step, hphase, hice]
      exact ⟨_, rfl⟩
  | done =>
    rw [AnswererGood, hphase] at hanswerer
    cases hdphase : s.dialer.phase with
    | request => exact absurd hdphase hd
    | offer | failed =>
      rw [DialerGood, hdphase] at hdialer
      simp [hstop] at hdialer
    | receive answered => exact ⟨_, hg.exists_dialerRecv hdphase hanswerer.1⟩
    | joinIce =>
      refine ⟨.dialerJoin, ?_⟩
      simp only [Handshake.step, hdphase, hstop]
      exact ⟨_, rfl⟩
    | done => exact absurd ⟨hdphase, hphase⟩ hfinal

/-- **The handshake.**  In every reachable state: no side has failed; a side that is past its loop
has applied the description of the other side and the ICE events the other side sent, in order, up
to and including end-of-candidates; and some task can move unless both sides are done. -/
theorem handshake_agreement (h : Handshake E) (events : List HandshakeEvent) (s : HandshakeState E)
    (hrun : Runs.run h.step h.start events = some s) :
    (∀ err, s.dialer.phase ≠ .failed err) ∧
      (s.answerer.phase ≠ .declined ∧ ∀ err, s.answerer.phase ≠ .failed err) ∧
      (s.dialer.phase = .joinIce ∨ s.dialer.phase = .done →
        s.dialer.applied = .applyDescription h.answerSdp ::
          (sentIce h.answererIce.events).map .ofIce) ∧
      (s.answerer.phase = .joinIce ∨ s.answerer.phase = .done →
        s.answerer.applied = .applyDescription h.offerSdp ::
          (sentIce h.dialerIce.events).map .ofIce) ∧
      (¬ Final s → ∃ event t, h.step s event = some t) := by
  have hg := good_of_run hrun
  have hdialer := hg.dialer
  have hanswerer := hg.answerer
  refine ⟨fun err hphase => ?_, ⟨fun hphase => ?_, fun err hphase => ?_⟩, hg.dialer_applied,
    hg.answerer_applied, hg.exists_step⟩
  · rw [DialerGood, hphase] at hdialer
    exact hdialer
  · rw [AnswererGood, hphase] at hanswerer
    exact hanswerer
  · rw [AnswererGood, hphase] at hanswerer
    exact hanswerer

end Runs

/-! ## One run -/

section Sample

open Sample

/-- One candidate, and the end. -/
def sampleIce (candidate : String) : LocalIceScript :=
  ⟨[.candidate ⟨candidate, some "0", some 0⟩, .endOfCandidates], rfl⟩

/-- The first dial from `alice` to `bob`. -/
def sample : Handshake Key where
  coordinator := ⟨alice, bob, fromInitiatorSequence alice bob epoch 0, 0⟩
  alpn := "chat"
  transportIntent := .webRtcPreferred
  usesWebrtc := rfl
  offerSdp := "offer"
  answerSdp := "answer"
  dialerIce := sampleIce "candidate-alice"
  answererIce := sampleIce "candidate-bob"

/-- Both ICE tasks run while the two loops wait. -/
def sampleEvents : List HandshakeEvent :=
  [.dialerRequest, .dialerOffer, .dialerIce, .answererRecv, .answererRecv, .answererAnswer,
    .dialerIce, .answererIce, .answererRecv, .dialerRecv, .answererRecv, .dialerRecv, .answererIce,
    .answererJoin, .dialerRecv, .dialerJoin]

theorem handshake_agreement_sample :
    (Runs.run sample.step sample.start sampleEvents).isSome = true ∧
      ∀ s, Runs.run sample.step sample.start sampleEvents = some s →
        s.dialer.phase = .done ∧
          s.dialer.applied = [.applyDescription "answer",
            .addIceCandidate ⟨"candidate-bob", some "0", some 0⟩, .addEndOfCandidates] := by
  refine ⟨by decide +kernel, fun s hrun => ?_⟩
  have hphase : (Runs.run sample.step sample.start sampleEvents).map (·.dialer.phase) =
      some .done := by decide +kernel
  rw [hrun] at hphase
  have hdone : s.dialer.phase = .done := Option.some.inj hphase
  exact ⟨hdone, (handshake_agreement sample sampleEvents s hrun).2.2.1 (Or.inr hdone)⟩

end Sample

end Handshake

end IrohWebRtc
