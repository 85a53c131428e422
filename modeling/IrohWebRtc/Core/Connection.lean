import IrohWebRtc.Core.Addr

/-!
# Iroh connections

What the nodes read of an iroh connection: the authenticated remote, the ALPN bytes, and the paths
with the one that is selected.  A connection is a value here.  The source looks at its paths when
the connection comes in or a dial has ended; that another path is selected later is not followed.

Both facades require that the selected path be the custom address of the session a connection is
meant for.  The check is the same in both, so it is stated once, over the error type of the
caller: a connection has a selected path, that path is a custom address, and the address is the
one that is expected.  A connection whose selected path is an address of the internet, or that has
not selected any path yet, does not pass, even where a path of the session is among the others.

Error texts are kept up to the values that the source prints into them.
-/

namespace IrohWebRtc

/-- The remote address of a path. -/
inductive TransportAddr where
  | ip (addr : String)
  | relay (url : String)
  | custom (addr : CustomAddr)
  deriving DecidableEq

structure ConnectionPath where
  remoteAddr : TransportAddr
  isSelected : Bool
  deriving DecidableEq

/-- An iroh connection. -/
structure Connection (E : Type*) where
  remoteId : E
  alpn : List UInt8
  paths : List ConnectionPath
  deriving DecidableEq

/-- Why the selected path is not that of the session. -/
inductive PathError (E : Type*) where
  | nonCustom (addr : TransportAddr)
  | notASession (err : Error)
  | mismatch (expected actual : WebRtcAddr E)
  | noSelectedPath
  deriving DecidableEq

/-- The fixed part of the error's text. -/
def PathError.message {E : Type*} : PathError E → String
  | .nonCustom _ => "WebRTC application connection selected non-custom Iroh path"
  | .notASession _ => "selected custom path is not a WebRTC session address"
  | .mismatch _ _ => "selected WebRTC custom path does not match session"
  | .noSelectedPath => "WebRTC application connection has no selected Iroh path"

variable {E : Type*}

/-- The address of the first path that is selected. -/
def Connection.selectedPath (connection : Connection E) : Option TransportAddr :=
  (connection.paths.find? (·.isSelected)).map (·.remoteAddr)

variable [DecidableEq E] [EndpointKey E]

/-- The loop over the paths of a connection: the first selected one decides. -/
def requireSelectedPath (expected : WebRtcAddr E) : List ConnectionPath → Except (PathError E) Unit
  | [] => .error .noSelectedPath
  | path :: paths =>
    if !path.isSelected then requireSelectedPath expected paths
    else
      match path.remoteAddr with
      | .custom customAddr =>
        match WebRtcAddr.fromCustomAddr customAddr with
        | .error err => .error (.notASession err)
        | .ok actual => if actual = expected then .ok () else .error (.mismatch expected actual)
      | addr => .error (.nonCustom addr)

/-- `require_webrtc_selected_path`. -/
def requireWebrtcSelectedPath (connection : Connection E) (expected : WebRtcAddr E) :
    Except (PathError E) Unit :=
  requireSelectedPath expected connection.paths

/-- On a connection whose selected path is the address `actual`, the check compares addresses. -/
theorem requireWebrtcSelectedPath_eq {connection : Connection E} {actual : WebRtcAddr E}
    (hpath : connection.selectedPath = some (.custom actual.toCustomAddr))
    (expected : WebRtcAddr E) :
    requireWebrtcSelectedPath connection expected =
      if actual = expected then .ok () else .error (.mismatch expected actual) := by
  rw [requireWebrtcSelectedPath]
  rw [Connection.selectedPath] at hpath
  generalize connection.paths = paths at hpath
  induction paths with
  | nil => exact absurd hpath (by simp)
  | cons path paths ih =>
    rw [requireSelectedPath]
    cases hsel : path.isSelected with
    | false =>
      rw [List.find?_cons_of_neg (by simp [hsel])] at hpath
      exact ih hpath
    | true =>
      rw [List.find?_cons_of_pos hsel, Option.map_some, Option.some.injEq] at hpath
      simp only [Bool.not_true, Bool.false_eq_true, if_false, hpath,
        WebRtcAddr.fromCustomAddr_toCustomAddr]

end IrohWebRtc
