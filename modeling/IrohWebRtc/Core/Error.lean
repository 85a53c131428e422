import Mathlib.Data.Nat.Notation

/-!
# The transport error type

`error.rs` of the crate: one error type for addresses, frames, sessions and configuration, and its
conversion to the error of the socket layer, of which only the kind and the wrapped value are
kept.

The texts are those of the source.  They are part of the model because callers pass them on: an
error of the codec comes out of a transmit as an error of the socket, under a kind that the caller
may match on.
-/

namespace IrohWebRtc

/-- Error returned by transport, configuration, browser, and native helpers. -/
inductive Error where
  /-- A custom transport address did not match the WebRTC address format. -/
  | invalidAddr (message : String)
  /-- A DataChannel packet frame was malformed or unsupported. -/
  | invalidFrame (message : String)
  /-- A packet payload exceeded the configured frame limit. -/
  | payloadTooLarge (actual max : ℕ)
  /-- The requested WebRTC session is not known to the session hub. -/
  | unknownSession
  /-- The requested WebRTC session or hub has closed. -/
  | sessionClosed
  /-- The packet queue cannot accept more packets. -/
  | sendQueueFull
  | browserWebRtcUnavailable
  /-- A browser or native WebRTC operation failed. -/
  | webRtc (message : String)
  | invalidIceConfig (message : String)
  | invalidConfig (message : String)
  deriving DecidableEq, Repr

/-- The kinds of socket errors the transport produces. -/
inductive IoErrorKind where
  | invalidInput
  | invalidData
  | notConnected
  | wouldBlock
  | unsupported
  | other
  deriving DecidableEq, Repr

/-- A socket error: one of ours under a kind, or a kind with a text. -/
inductive IoError where
  | ofError (kind : IoErrorKind) (error : Error)
  | new (kind : IoErrorKind) (message : String)
  deriving DecidableEq, Repr

/-- `impl From<Error> for io::Error`. -/
def Error.toIoError (value : Error) : IoError :=
  match value with
  | .invalidAddr _ | .invalidFrame _ | .payloadTooLarge _ _ => .ofError .invalidInput value
  | .unknownSession | .sessionClosed => .ofError .notConnected value
  | .sendQueueFull => .ofError .wouldBlock value
  | .browserWebRtcUnavailable => .ofError .unsupported value
  | .webRtc _ | .invalidIceConfig _ | .invalidConfig _ => .ofError .other value

end IrohWebRtc
