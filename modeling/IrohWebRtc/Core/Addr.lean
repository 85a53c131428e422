import IrohWebRtc.Core.Error
import IrohWebRtc.Lib.Bytes

/-!
# Virtual WebRTC addresses

`core/addr.rs`: an endpoint id together with a capability marker or a session id, packed into the
byte string of a custom transport address.

`version[1] ++ kind[1] ++ endpoint_id[32] ++ session_id[16]`

An address stands at two places of the crate.  A capability address says that an endpoint takes
part in WebRTC, and dials nothing; a session address names one session of one peer, and is what a
transmit is sent to and what the gate of an application connection compares.  Both come from the
network as well, so the decoder decides what counts as an address: it takes the id of this
transport, the one version there is, one of two kinds, and a length that is exact for the kind.

The endpoint id is an iroh type.  What the crate relies on is collected in `EndpointKey`: an id is
written as thirty-two bytes, from which it can be read back, and a byte string that is read as an
id is the one that id is written as.  Not every byte string is an id, which is why decoding can
fail in the middle of an address that has the right length.

`fromCustomAddr_toCustomAddr` is the direction that senders need; that nothing else is decoded is
proved in `Core.Outbound`, together with what a transmit does with an address.
-/

namespace IrohWebRtc

open Bytes

/-- What the crate uses of an iroh endpoint id.  Not every byte string is an id: `fromBytes` fails
on the strings that are not. -/
class EndpointKey (E : Type*) where
  asBytes : E → FixedBytes 32
  fromBytes : FixedBytes 32 → Option E
  fromBytes_asBytes : ∀ e, fromBytes (asBytes e) = some e
  asBytes_of_fromBytes : ∀ {bs e}, fromBytes bs = some e → asBytes e = bs

/-- An address of a custom transport: its transport id and what that transport makes of it. -/
structure CustomAddr where
  id : ℕ
  data : List UInt8
  deriving DecidableEq

/-- The id of this transport, `iwrtc` in ASCII and a suffix for the address format. -/
def webrtcTransportId : ℕ := 0x6977727463000001

def addrVersion : UInt8 := 1

def kindCapability : UInt8 := 1

def kindSession : UInt8 := 2

def endpointIdLen : ℕ := 32

def sessionIdLen : ℕ := 16

/-- The role an address plays in the transport. -/
inductive WebRtcAddrKind where
  /-- The endpoint can take part in WebRTC bootstrap. -/
  | capability
  /-- Packets for this address belong to one active session. -/
  | session (sessionId : FixedBytes 16)
  deriving DecidableEq

/-- Virtual WebRTC address. -/
structure WebRtcAddr (E : Type*) where
  endpointId : E
  kind : WebRtcAddrKind
  deriving DecidableEq

namespace WebRtcAddr

variable {E : Type*}

def capability (endpointId : E) : WebRtcAddr E := ⟨endpointId, .capability⟩

def session (endpointId : E) (sessionId : FixedBytes 16) : WebRtcAddr E :=
  ⟨endpointId, .session sessionId⟩

variable [EndpointKey E]

/-- Encodes the address into iroh's custom address type. -/
def toCustomAddr (addr : WebRtcAddr E) : CustomAddr where
  id := webrtcTransportId
  data :=
    match addr.kind with
    | .capability =>
      addrVersion :: kindCapability :: (EndpointKey.asBytes addr.endpointId).toList
    | .session sessionId =>
      addrVersion :: kindSession ::
        ((EndpointKey.asBytes addr.endpointId).toList ++ sessionId.toList)

/-- Decodes a virtual address. -/
def fromCustomAddr (addr : CustomAddr) : Except Error (WebRtcAddr E) :=
  if addr.id ≠ webrtcTransportId then .error (.invalidAddr "unexpected custom transport id")
  else if addr.data.length < 2 + endpointIdLen then .error (.invalidAddr "address data too short")
  else if addr.data.getD 0 0 ≠ addrVersion then
    .error (.invalidAddr "unsupported address version")
  else
    match FixedBytes.ofList? 32 (slice addr.data 2 (2 + endpointIdLen)) with
    | none => .error (.invalidAddr "invalid endpoint id length")
    | some endpointBytes =>
      match EndpointKey.fromBytes endpointBytes with
      | none => .error (.invalidAddr "invalid endpoint id bytes")
      | some endpointId =>
        if addr.data.getD 1 0 = kindCapability then
          if addr.data.length ≠ 2 + endpointIdLen then
            .error (.invalidAddr "capability address has trailing data")
          else .ok ⟨endpointId, .capability⟩
        else if addr.data.getD 1 0 = kindSession then
          if addr.data.length ≠ 2 + endpointIdLen + sessionIdLen then
            .error (.invalidAddr "session address has invalid length")
          else
            match FixedBytes.ofList? 16 (addr.data.drop (2 + endpointIdLen)) with
            | none => .error (.invalidAddr "invalid session id length")
            | some sessionId => .ok ⟨endpointId, .session sessionId⟩
        else .error (.invalidAddr "unknown address kind")

/-- **Decoding inverts encoding.** -/
theorem fromCustomAddr_toCustomAddr (addr : WebRtcAddr E) :
    fromCustomAddr addr.toCustomAddr = .ok addr := by
  obtain ⟨endpointId, kind⟩ := addr
  have hlen := (EndpointKey.asBytes endpointId).length_toList
  cases kind with
  | capability =>
    have hslice : slice (addrVersion :: kindCapability ::
        (EndpointKey.asBytes endpointId).toList) 2 34 =
          (EndpointKey.asBytes endpointId).toList := by
      have h := slice_middle (a := [addrVersion, kindCapability]) (c := []) (i := 2) (j := 34)
        rfl (by rw [hlen])
      rwa [List.append_nil] at h
    simp [fromCustomAddr, toCustomAddr, endpointIdLen, hlen, hslice,
      EndpointKey.fromBytes_asBytes]
  | session sessionId =>
    have hsid := sessionId.length_toList
    have hslice : slice (addrVersion :: kindSession ::
        ((EndpointKey.asBytes endpointId).toList ++ sessionId.toList)) 2 34 =
          (EndpointKey.asBytes endpointId).toList :=
      slice_middle (a := [addrVersion, kindSession]) rfl (by rw [hlen])
    have hdrop : (addrVersion :: kindSession ::
        ((EndpointKey.asBytes endpointId).toList ++ sessionId.toList)).drop 34 =
          sessionId.toList := by
      rw [List.drop_succ_cons, List.drop_succ_cons, List.drop_left' hlen]
    have hkind : kindSession ≠ kindCapability := by decide
    simp [fromCustomAddr, toCustomAddr, endpointIdLen, sessionIdLen, hlen, hsid, hslice, hdrop,
      EndpointKey.fromBytes_asBytes, hkind]

/-- Distinct addresses never share an encoding. -/
theorem toCustomAddr_injective : Function.Injective (toCustomAddr : WebRtcAddr E → CustomAddr) := by
  intro a b h
  have ha := fromCustomAddr_toCustomAddr a
  rw [h, fromCustomAddr_toCustomAddr b] at ha
  exact (Except.ok.inj ha).symm

/-- What is decoded is the encoding of the result. -/
theorem eq_toCustomAddr_of_ok {c : CustomAddr} {addr : WebRtcAddr E}
    (h : fromCustomAddr c = .ok addr) : c = addr.toCustomAddr := by
  obtain ⟨id, data⟩ := c
  unfold fromCustomAddr at h
  by_cases hid : id = webrtcTransportId
  swap
  · simp [hid] at h
  by_cases hshort : data.length < 2 + endpointIdLen
  · simp [hshort, hid] at h
  by_cases hversion : data.getD 0 0 = addrVersion
  swap
  · rw [if_neg (not_not.mpr hid), if_neg hshort, if_pos hversion] at h
    exact absurd h (by simp)
  rw [if_neg (not_not.mpr hid), if_neg hshort, if_neg (not_not.mpr hversion)] at h
  subst hid
  -- two bytes, the endpoint id, and what is left
  obtain ⟨version, kind, rest, rfl⟩ : ∃ version kind rest, data = version :: kind :: rest := by
    match data, hshort with
    | version :: kind :: rest, _ => exact ⟨version, kind, rest, rfl⟩
    | [_], hshort => exact absurd (by simp [endpointIdLen]) hshort
    | [], hshort => exact absurd (by simp [endpointIdLen]) hshort
  have hsplit : slice (version :: kind :: rest) 2 (2 + endpointIdLen) ++
      (version :: kind :: rest).drop (2 + endpointIdLen) = rest :=
    slice_append_drop (by simp [endpointIdLen])
  obtain rfl : version = addrVersion := hversion
  cases hbytes : FixedBytes.ofList? 32 (slice (addrVersion :: kind :: rest) 2
      (2 + endpointIdLen)) with
  | none => simp [hbytes] at h
  | some endpointBytes =>
  cases hendpoint : EndpointKey.fromBytes (E := E) endpointBytes with
  | none => simp [hbytes, hendpoint] at h
  | some endpointId =>
  obtain rfl := EndpointKey.asBytes_of_fromBytes hendpoint
  simp only [hbytes, hendpoint] at h
  rw [FixedBytes.ofList?_eq_some.mp hbytes] at hsplit
  split_ifs at h with hcapability htrailing hsession hlength
  · -- a capability address ends with the endpoint id
    obtain rfl := Except.ok.inj h
    obtain rfl : kind = kindCapability := hcapability
    have hnone : (addrVersion :: kindCapability :: rest).drop (2 + endpointIdLen) = [] :=
      List.drop_of_length_le (not_not.mp htrailing).le
    rw [hnone, List.append_nil] at hsplit
    rw [← hsplit]
    rfl
  · obtain rfl : kind = kindSession := hsession
    split at h
    · exact absurd h (by simp)
    rename_i sessionId hsessionId
    obtain rfl := Except.ok.inj h
    rw [FixedBytes.ofList?_eq_some.mp hsessionId] at hsplit
    rw [← hsplit]
    rfl

/-- **Decoding is exact**: it accepts the encodings and no other address. -/
theorem fromCustomAddr_eq_ok {c : CustomAddr} {addr : WebRtcAddr E} :
    fromCustomAddr c = .ok addr ↔ c = addr.toCustomAddr :=
  ⟨eq_toCustomAddr_of_ok, fun h => h ▸ fromCustomAddr_toCustomAddr addr⟩

/-- An address is refused with an error about the address. -/
theorem exists_invalidAddr_of_error {c : CustomAddr} {err : Error}
    (h : fromCustomAddr (E := E) c = .error err) : ∃ message, err = .invalidAddr message := by
  unfold fromCustomAddr at h
  repeat' split at h
  all_goals first
    | exact ⟨_, (Except.error.inj h).symm⟩
    | exact absurd h (by simp)

end WebRtcAddr

end IrohWebRtc
