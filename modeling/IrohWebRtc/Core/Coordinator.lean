import IrohWebRtc.Core.Signaling

/-!
# The route of one dial

`core/coordinator.rs`: the four fields that every signal of one session carries, the signals a
side builds from them, and the check that a received signal belongs to the session.

A dial is named by its id, the two endpoints and a generation.  The two sides hold the same fields
with the endpoints exchanged, so a side asks of a signal that it comes from the remote and goes to
itself.  Each side accepts exactly what the other builds (`accepts_callSignal`); this is the one
fact about routes that the handshake uses.
-/

namespace IrohWebRtc

/-- A locally gathered ICE candidate. -/
structure WebRtcIceCandidate where
  candidate : String
  sdpMid : Option String
  sdpMlineIndex : Option UInt16
  deriving DecidableEq, Repr

/-- What a peer connection reports while it gathers candidates. -/
inductive LocalIceEvent where
  | candidate (candidate : WebRtcIceCandidate)
  | endOfCandidates
  deriving DecidableEq, Repr

structure DialCoordinator (E : Type*) where
  localId : E
  remote : E
  dialId : DialId
  generation : ℕ
  deriving DecidableEq

namespace DialCoordinator

variable {E : Type*}

/-- The coordinator of an initiator: it takes the next id of the generator. -/
def initiateWithTransportIntent [DecidableEq E] [EndpointKey E] [Blake3]
    (generator : DialIdGenerator E) (remote : E) (_transportIntent : BootstrapTransportIntent) :
    Option (DialCoordinator E × DialIdGenerator E) :=
  (generator.next remote).map fun (session, generator') =>
    (⟨generator.localId, remote, session.dialId, session.generation⟩, generator')

/-- The coordinator of a responder: it copies the ids of the request. -/
def respondWithTransportIntent (localId remote : E) (generation : ℕ) (dialId : DialId)
    (_transportIntent : BootstrapTransportIntent) : DialCoordinator E :=
  ⟨localId, remote, dialId, generation⟩

variable (c : DialCoordinator E)

def offer (sdp : String) : WebRtcSignal E := .offer c.dialId c.localId c.remote c.generation sdp

def answer (sdp : String) : WebRtcSignal E := .answer c.dialId c.localId c.remote c.generation sdp

def iceCandidate (candidate : WebRtcIceCandidate) : WebRtcSignal E :=
  .iceCandidate c.dialId c.localId c.remote c.generation candidate.candidate candidate.sdpMid
    candidate.sdpMlineIndex

def endOfCandidates : WebRtcSignal E := .endOfCandidates c.dialId c.localId c.remote c.generation

/-- The signal belongs to this session and comes from the other side. -/
def accepts [DecidableEq E] (signal : WebRtcSignal E) : Bool :=
  signal.dialId = c.dialId && signal.generation = c.generation && signal.isFor c.localId c.remote

end DialCoordinator

end IrohWebRtc
