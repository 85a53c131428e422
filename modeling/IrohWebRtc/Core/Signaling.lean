import IrohWebRtc.Core.Addr

/-!
# Bootstrap signals and dial ids

`core/signaling.rs`: the messages by which two nodes set up a WebRTC session over an iroh stream,
and the generator of the ids of the sessions a node initiates.

A dial begins with a request, which carries the intent of the initiator; offer, answer and ICE
candidates follow, and a terminal signal says that a side has given up and why.  Every message
names the dial, both endpoints and the generation, so that it can be told from the messages of
another dial without knowing the stream it came over.

A dial id is the first half of a BLAKE3 hash.  The hash is a package of its own and is a parameter
here, the class `Blake3`.  What it is applied to, and that no generator applies it to the same
bytes twice, is the subject of `Core.DialIds`.
-/

namespace IrohWebRtc

open Bytes

/-- How a dial wants to be transported. -/
inductive BootstrapTransportIntent where
  | irohRelay
  | webRtcPreferred
  | webRtcOnly
  deriving DecidableEq, Repr

namespace BootstrapTransportIntent

def usesWebrtc : BootstrapTransportIntent → Bool
  | irohRelay => false
  | _ => true

def allowsIrohRelayFallback : BootstrapTransportIntent → Bool
  | webRtcPreferred => true
  | _ => false

end BootstrapTransportIntent

inductive WebRtcTerminalReason where
  | webRtcFailed
  | fallbackSelected
  | cancelled
  | closed
  deriving DecidableEq, Repr

/-- The id of a session, sixteen bytes. -/
abbrev DialId := FixedBytes 16

/-- `u64::MAX`. -/
def u64Max : ℕ := 2 ^ 64 - 1

/-- The messages of the bootstrap stream. -/
inductive WebRtcSignal (E : Type*) where
  | dialRequest (dialId : DialId) (fromId toId : E) (generation : ℕ) (alpn : String)
      (transportIntent : BootstrapTransportIntent)
  | offer (dialId : DialId) (fromId toId : E) (generation : ℕ) (sdp : String)
  | answer (dialId : DialId) (fromId toId : E) (generation : ℕ) (sdp : String)
  | iceCandidate (dialId : DialId) (fromId toId : E) (generation : ℕ) (candidate : String)
      (sdpMid : Option String) (sdpMlineIndex : Option UInt16)
  | endOfCandidates (dialId : DialId) (fromId toId : E) (generation : ℕ)
  | terminal (dialId : DialId) (fromId toId : E) (generation : ℕ) (reason : WebRtcTerminalReason)
      (message : Option String)
  deriving DecidableEq

namespace WebRtcSignal

variable {E : Type*}

def dialId : WebRtcSignal E → DialId
  | dialRequest d .. | offer d .. | answer d .. | iceCandidate d .. | endOfCandidates d ..
  | terminal d .. => d

def fromId : WebRtcSignal E → E
  | dialRequest _ f .. | offer _ f .. | answer _ f .. | iceCandidate _ f .. | endOfCandidates _ f ..
  | terminal _ f .. => f

def toId : WebRtcSignal E → E
  | dialRequest _ _ t .. | offer _ _ t .. | answer _ _ t .. | iceCandidate _ _ t ..
  | endOfCandidates _ _ t .. | terminal _ _ t .. => t

def generation : WebRtcSignal E → ℕ
  | dialRequest _ _ _ g .. | offer _ _ _ g .. | answer _ _ _ g .. | iceCandidate _ _ _ g ..
  | endOfCandidates _ _ _ g | terminal _ _ _ g .. => g

def terminalReason : WebRtcSignal E → Option WebRtcTerminalReason
  | terminal _ _ _ _ reason _ => some reason
  | _ => none

/-- The signal was sent by `remote` to `local`. -/
def isFor [DecidableEq E] (signal : WebRtcSignal E) (localId remote : E) : Bool :=
  signal.toId = localId && signal.fromId = remote

end WebRtcSignal

/-! ## Dial ids -/

/-- The BLAKE3 hash. -/
class Blake3 where
  hash : List UInt8 → FixedBytes 32

/-- `iroh-webrtc-dial-id-v1` in ASCII. -/
def dialIdDerivationDomain : List UInt8 :=
  [0x69, 0x72, 0x6f, 0x68, 0x2d, 0x77, 0x65, 0x62, 0x72, 0x74, 0x63, 0x2d, 0x64, 0x69, 0x61, 0x6c,
    0x2d, 0x69, 0x64, 0x2d, 0x76, 0x31]

/-- The bytes that are hashed for the dial number `generation` from `initiator` to `responder`. -/
def dialIdPreimage {E : Type*} [EndpointKey E] (initiator responder : E) (epoch : FixedBytes 16)
    (generation : ℕ) : List UInt8 :=
  dialIdDerivationDomain ++ (EndpointKey.asBytes initiator).toList ++
    (EndpointKey.asBytes responder).toList ++ epoch.toList ++ toBe 8 generation

/-- The first sixteen bytes of a hash. -/
def hashHead (hash : FixedBytes 32) : DialId :=
  ⟨hash.toList.take 16, by rw [List.length_take, hash.length_toList]; rfl⟩

/-- `DialId::from_initiator_sequence`. -/
def fromInitiatorSequence {E : Type*} [EndpointKey E] [Blake3] (initiator responder : E)
    (epoch : FixedBytes 16) (generation : ℕ) : DialId :=
  hashHead (Blake3.hash (dialIdPreimage initiator responder epoch generation))

/-- A newly allocated session identity. -/
structure DialSessionId where
  dialId : DialId
  generation : ℕ
  deriving DecidableEq

/-- Allocates dial ids from a local epoch and one counter per remote.  A remote without an entry
has the counter zero. -/
structure DialIdGenerator (E : Type*) where
  localId : E
  epoch : FixedBytes 16
  nextByRemote : E → ℕ

namespace DialIdGenerator

variable {E : Type*}

def withEpoch (localId : E) (epoch : FixedBytes 16) : DialIdGenerator E :=
  ⟨localId, epoch, fun _ => 0⟩

variable [DecidableEq E]

/-- The counter of `remote`, and the generator with that counter advanced.  `none` is the panic of
a counter that is exhausted. -/
def nextGeneration (generator : DialIdGenerator E) (remote : E) : Option (ℕ × DialIdGenerator E) :=
  let current := generator.nextByRemote remote
  if u64Max < current + 1 then none
  else
    some (current,
      { generator with
        nextByRemote := fun r => if r = remote then current + 1 else generator.nextByRemote r })

/-- `DialIdGenerator::next`. -/
def next [EndpointKey E] [Blake3] (generator : DialIdGenerator E) (remote : E) :
    Option (DialSessionId × DialIdGenerator E) :=
  (generator.nextGeneration remote).map fun (generation, generator') =>
    (⟨fromInitiatorSequence generator.localId remote generator.epoch generation, generation⟩,
      generator')

end DialIdGenerator

/-! ## Two concrete endpoints

For runs on concrete inputs: two valid ids, the base point of the curve and its opposite, an epoch,
and the BLAKE3 hashes of the first two dials from the one to the other. -/

namespace Sample

abbrev Key := FixedBytes 32

/-- Ids as their bytes.  The two ids below are points of the curve. -/
scoped instance : EndpointKey Key where
  asBytes := id
  fromBytes := some
  fromBytes_asBytes := fun _ => rfl
  asBytes_of_fromBytes := fun h => (Option.some.inj h).symm

def alice : Key := ⟨0x58 :: List.replicate 31 0x66, rfl⟩

def bob : Key := ⟨0x58 :: List.replicate 30 0x66 ++ [0xe6], rfl⟩

def epoch : FixedBytes 16 := .replicate 16 7

def firstHash : FixedBytes 32 :=
  ⟨[0x5c, 0xed, 0x88, 0x75, 0x78, 0xc3, 0x3c, 0x9b, 0x82, 0x84, 0x57, 0x17, 0x14, 0x5a, 0xb6, 0xc4,
      0xde, 0xec, 0x18, 0x89, 0x5d, 0xca, 0xc2, 0x33, 0x50, 0x0c, 0xee, 0xbe, 0x76, 0x8d, 0xf1,
      0xfe], rfl⟩

def secondHash : FixedBytes 32 :=
  ⟨[0x1c, 0x79, 0xae, 0x3b, 0x1b, 0x08, 0xbe, 0x7f, 0xdb, 0xa7, 0x81, 0xb2, 0xfb, 0x8d, 0x06, 0x5e,
      0x37, 0x5c, 0x8b, 0x1b, 0x9a, 0x8b, 0x8d, 0x13, 0xa2, 0x42, 0x00, 0x08, 0x0d, 0x82, 0xa9,
      0x4b], rfl⟩

/-- BLAKE3 on the preimages of the first two dials from `alice` to `bob`. -/
scoped instance : Blake3 where
  hash bs :=
    if bs = dialIdPreimage alice bob epoch 0 then firstHash
    else if bs = dialIdPreimage alice bob epoch 1 then secondHash
    else .replicate 32 0

end Sample

end IrohWebRtc
