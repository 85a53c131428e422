import IrohWebRtc.Core.Frame
import IrohWebRtc.Core.SignalCodec
import IrohWebRtc.Lib.Chunks

/-!
# Bootstrap streams

`core/bootstrap.rs`: signals on a stream, each behind the length of its encoding as four bytes.  A
writer refuses a signal whose encoding is longer than the limit before it writes anything; a
reader refuses such a length before it reads the body, so a peer cannot make it allocate.

A stream that is read is the list of the chunks in which it arrives, and `Lib.Chunks` says that
their boundaries do not matter.  A stream that is written takes bytes until the peer has stopped
it.

* `recvSignals_encoded`: what was encoded is what is read; and `recvSignals_written`: what was
  written, which is the encoding and nothing else (`writeSignal_eq_ok`).
* `writeSignal_of_tooLong`, `readSignal_of_tooLong`: both sides refuse what is too long before its
  body is on the stream.

## Limits

The operations of the source run under a timeout, and none times out here: a timeout ends the
stream for the caller, as an error of the stream does.  The end of a stream is an error wherever
it comes, also between two signals.  The JSON reader is a parameter (`JsonReader`), which is held
to what our own encoder writes.
-/

namespace IrohWebRtc

open Bytes

/-- `DEFAULT_MAX_BOOTSTRAP_MESSAGE_LEN`. -/
def defaultMaxBootstrapMessageLen : ℕ := 64 * 1024

/-- The contexts that the errors of this module carry, with the length and the maximum where the
text has them. -/
inductive BootstrapError where
  /-- WebRTC bootstrap signal length `len` exceeds maximum `max`. -/
  | tooLong (len max : ℕ)
  /-- WebRTC bootstrap signal is too large. -/
  | tooLarge
  /-- failed to write WebRTC bootstrap signal -/
  | write
  /-- failed to read WebRTC bootstrap signal length -/
  | readLength
  /-- failed to read WebRTC bootstrap signal body -/
  | readBody
  /-- failed to decode WebRTC bootstrap signal -/
  | decode
  deriving DecidableEq, Repr

/-- A stream that is written: the bytes it has taken, and how many it takes before it fails, when
the peer stops it. -/
structure SendStream where
  written : List UInt8
  room : Option ℕ
  deriving DecidableEq, Repr

/-- `SendStream::write_all`.  What fits is written also when not everything does. -/
def SendStream.writeAll (send : SendStream) (bytes : List UInt8) :
    Except BootstrapError Unit × SendStream :=
  match send.room with
  | none => (.ok (), { send with written := send.written ++ bytes })
  | some room =>
    if bytes.length ≤ room then
      (.ok (), ⟨send.written ++ bytes, some (room - bytes.length)⟩)
    else (.error .write, ⟨send.written ++ bytes.take room, some 0⟩)

variable {E : Type*} [EndpointText E]

/-- The encoding of a signal, which its length precedes on the stream. -/
def WebRtcSignal.body (signal : WebRtcSignal E) : List UInt8 := signal.toJson.toBytes

def encodeSignal (signal : WebRtcSignal E) (maxMessageLen : ℕ) :
    Except BootstrapError (List UInt8) :=
  if maxMessageLen < signal.body.length then
    .error (.tooLong signal.body.length maxMessageLen)
  else if u32Max < signal.body.length then .error .tooLarge
  else .ok (toBe 4 signal.body.length ++ signal.body)

/-- `write_signal_with_timeout`. -/
def writeSignal (send : SendStream) (signal : WebRtcSignal E) (maxMessageLen : ℕ) :
    Except BootstrapError Unit × SendStream :=
  match encodeSignal signal maxMessageLen with
  | .error e => (.error e, send)
  | .ok bytes => send.writeAll bytes

def decodeSignalBody [JsonReader] (bytes : List UInt8) : Except BootstrapError (WebRtcSignal E) :=
  match (JsonReader.read bytes).bind WebRtcSignal.ofJson with
  | some signal => .ok signal
  | none => .error .decode

/-- `read_signal_with_timeout`, with the stream that is left. -/
def readSignal [JsonReader] (recv : List (List UInt8)) (maxMessageLen : ℕ) :
    Except BootstrapError (WebRtcSignal E) × List (List UInt8) :=
  match Chunks.readExact 4 recv with
  | (none, recv) => (.error .readLength, recv)
  | (some len, recv) =>
    if maxMessageLen < fromBe len then (.error (.tooLong (fromBe len) maxMessageLen), recv)
    else
      match Chunks.readExact (fromBe len) recv with
      | (none, recv) => (.error .readBody, recv)
      | (some bytes, recv) => (decodeSignalBody bytes, recv)

/-- The results of `n` calls of `recv_signal`. -/
def recvSignals [JsonReader] (maxMessageLen : ℕ) :
    ℕ → List (List UInt8) → List (Except BootstrapError (WebRtcSignal E))
  | 0, _ => []
  | n + 1, recv =>
    let (signal, recv) := readSignal recv maxMessageLen
    signal :: recvSignals maxMessageLen n recv

/-- Calls of `send_signal`, up to the first that fails. -/
def sendSignals (maxMessageLen : ℕ) :
    SendStream → List (WebRtcSignal E) → Except BootstrapError Unit × SendStream
  | send, [] => (.ok (), send)
  | send, signal :: signals =>
    match writeSignal send signal maxMessageLen with
    | (.error e, send) => (.error e, send)
    | (.ok (), send) => sendSignals maxMessageLen send signals

/-! ## Encoding -/

theorem encodeSignal_eq_ok {signal : WebRtcSignal E} {maxMessageLen : ℕ} {bytes : List UInt8}
    (h : encodeSignal signal maxMessageLen = .ok bytes) :
    signal.body.length ≤ maxMessageLen ∧ signal.body.length ≤ u32Max ∧
      bytes = toBe 4 signal.body.length ++ signal.body := by
  rw [encodeSignal] at h
  by_cases hmax : maxMessageLen < signal.body.length
  · rw [if_pos hmax] at h
    cases h
  · by_cases hlarge : u32Max < signal.body.length
    · rw [if_neg hmax, if_pos hlarge] at h
      cases h
    · rw [if_neg hmax, if_neg hlarge] at h
      cases h
      exact ⟨Nat.le_of_not_lt hmax, Nat.le_of_not_lt hlarge, rfl⟩

theorem encodeSignal_of_le {signal : WebRtcSignal E} {maxMessageLen : ℕ}
    (hlen : signal.body.length ≤ maxMessageLen) (hmax : maxMessageLen ≤ u32Max) :
    encodeSignal signal maxMessageLen = .ok (toBe 4 signal.body.length ++ signal.body) := by
  rw [encodeSignal, if_neg (Nat.not_lt.mpr hlen), if_neg (Nat.not_lt.mpr (hlen.trans hmax))]

/-- A signal whose encoding is too long is refused, and nothing of it is sent. -/
theorem writeSignal_of_tooLong {signal : WebRtcSignal E} {maxMessageLen : ℕ}
    (h : maxMessageLen < signal.body.length) (send : SendStream) :
    writeSignal send signal maxMessageLen =
      (.error (.tooLong signal.body.length maxMessageLen), send) := by
  rw [writeSignal, encodeSignal, if_pos h]

/-- **What is written.**  A signal that is accepted is on the stream as exactly its encoding. -/
theorem writeSignal_eq_ok {send send' : SendStream} {signal : WebRtcSignal E} {maxMessageLen : ℕ}
    (h : writeSignal send signal maxMessageLen = (.ok (), send')) :
    ∃ bytes, encodeSignal signal maxMessageLen = .ok bytes ∧
      send'.written = send.written ++ bytes := by
  rw [writeSignal] at h
  cases hencode : encodeSignal signal maxMessageLen with
  | error e =>
    rw [hencode] at h
    cases h
  | ok bytes =>
    simp only [hencode, SendStream.writeAll] at h
    refine ⟨bytes, rfl, ?_⟩
    split at h
    · obtain ⟨-, rfl⟩ := Prod.mk.inj h
      rfl
    · split_ifs at h
      · obtain ⟨-, rfl⟩ := Prod.mk.inj h
        rfl
      · obtain ⟨habs, -⟩ := Prod.mk.inj h
        cases habs

/-- Signals that are all accepted are on the stream as their encodings. -/
theorem sendSignals_eq_ok {send send' : SendStream} {signals : List (WebRtcSignal E)}
    {maxMessageLen : ℕ} (h : sendSignals maxMessageLen send signals = (.ok (), send')) :
    ∃ frames : List (List UInt8), signals.map (encodeSignal · maxMessageLen) = frames.map .ok ∧
      send'.written = send.written ++ frames.flatten := by
  induction signals generalizing send with
  | nil =>
    obtain ⟨-, rfl⟩ := Prod.mk.inj h
    exact ⟨[], rfl, (List.append_nil _).symm⟩
  | cons signal signals ih =>
    rw [sendSignals] at h
    rcases hwrite : writeSignal send signal maxMessageLen with ⟨result, send₁⟩
    cases result with
    | error e =>
      rw [hwrite] at h
      obtain ⟨habs, -⟩ := Prod.mk.inj h
      cases habs
    | ok =>
      rw [hwrite] at h
      obtain ⟨bytes, hbytes, hwritten⟩ := writeSignal_eq_ok hwrite
      obtain ⟨frames, hframes, hrest⟩ := ih h
      refine ⟨bytes :: frames, ?_, ?_⟩
      · rw [List.map_cons, List.map_cons, hbytes, hframes]
      · rw [hrest, hwritten, List.flatten_cons, List.append_assoc]

/-! ## Decoding -/

theorem decodeSignalBody_body [JsonReader] {signal : WebRtcSignal E}
    (h : signal.generation ≤ u64Max) : decodeSignalBody signal.body = .ok signal := by
  rw [decodeSignalBody, WebRtcSignal.body, JsonReader.read_toBytes _ (WebRtcSignal.plain_toJson h),
    Option.bind_some, WebRtcSignal.ofJson_toJson h]

theorem fromBe_length {n : ℕ} (h : n ≤ u32Max) : fromBe (toBe 4 n) = n :=
  fromBe_toBe (Nat.lt_of_le_of_lt h (by decide))

/-- The length in front is read first, wherever the chunks end. -/
theorem readExact_length {recv : List (List UInt8)} {len : FixedBytes 4} {rest : List UInt8}
    (h : recv.flatten = len.toList ++ rest) :
    (Chunks.readExact 4 recv).1 = some len.toList ∧
      (Chunks.readExact 4 recv).2.flatten = rest := by
  have hread := Chunks.readExact_append h
  rwa [len.length_toList] at hread

/-- A length above the maximum is refused with the body still on the stream. -/
theorem readSignal_of_tooLong [JsonReader] {recv : List (List UInt8)} {len : FixedBytes 4}
    {maxMessageLen : ℕ} {rest : List UInt8} (hrecv : recv.flatten = len.toList ++ rest)
    (hlong : maxMessageLen < fromBe len.toList) :
    (readSignal (E := E) recv maxMessageLen).1 =
        .error (.tooLong (fromBe len.toList) maxMessageLen) ∧
      (readSignal (E := E) recv maxMessageLen).2.flatten = rest := by
  obtain ⟨hlen, hleft⟩ := readExact_length hrecv
  rw [readSignal]
  rcases hread : Chunks.readExact 4 recv with ⟨_, left⟩
  rw [hread] at hlen hleft
  obtain rfl : _ = some len.toList := hlen
  simp only [if_pos hlong]
  exact ⟨trivial, hleft⟩

/-- A call reads the signal whose encoding comes first, and leaves what follows it. -/
theorem readSignal_encoded [JsonReader] {signal : WebRtcSignal E} {maxMessageLen : ℕ}
    {bytes rest : List UInt8} {recv : List (List UInt8)} (hgeneration : signal.generation ≤ u64Max)
    (hbytes : encodeSignal signal maxMessageLen = .ok bytes)
    (hrecv : recv.flatten = bytes ++ rest) :
    (readSignal recv maxMessageLen).1 = .ok signal ∧
      (readSignal (E := E) recv maxMessageLen).2.flatten = rest := by
  obtain ⟨hmax, hlarge, rfl⟩ := encodeSignal_eq_ok hbytes
  rw [List.append_assoc] at hrecv
  have hfirst : recv.flatten =
      (⟨toBe 4 signal.body.length, length_toBe _ _⟩ : FixedBytes 4).toList ++
        (signal.body ++ rest) := hrecv
  obtain ⟨hlen, hbody⟩ := readExact_length hfirst
  rw [readSignal]
  rcases hread : Chunks.readExact 4 recv with ⟨_, left⟩
  rw [hread] at hlen hbody
  obtain rfl : _ = some (toBe 4 signal.body.length) := hlen
  simp only [fromBe_length hlarge, if_neg (Nat.not_lt.mpr hmax)]
  obtain ⟨hsome, hrest⟩ := Chunks.readExact_append hbody
  rcases hread : Chunks.readExact signal.body.length left with ⟨_, left⟩
  rw [hread] at hsome hrest
  obtain rfl : _ = some signal.body := hsome
  exact ⟨decodeSignalBody_body hgeneration, hrest⟩

/-! ## Streams of signals -/

/-- At the end of the stream every call fails at the length. -/
theorem recvSignals_end [JsonReader] (maxMessageLen n : ℕ) {recv : List (List UInt8)}
    (h : recv.flatten = []) :
    recvSignals (E := E) maxMessageLen n recv = List.replicate n (.error .readLength) := by
  induction n generalizing recv with
  | zero => rfl
  | succ n ih =>
    have hshort : (Chunks.readExact 4 recv).1 = none :=
      Chunks.readExact_of_short (by rw [h]; decide)
    have hleft : (Chunks.readExact 4 recv).2.flatten = [] := by
      rw [(Chunks.readExact_spec 4 recv).2, h]
      rfl
    have hsignal : readSignal (E := E) recv maxMessageLen =
        (.error .readLength, (Chunks.readExact 4 recv).2) := by
      rw [readSignal]
      rcases hread : Chunks.readExact 4 recv with ⟨_, left⟩
      rw [hread] at hshort
      obtain rfl : _ = none := hshort
      rfl
    rw [recvSignals, hsignal, List.replicate_succ, ← ih hleft]

/-- **What was encoded is what is read**, in order, wherever the chunks end; behind it every call
fails. -/
theorem recvSignals_encoded [JsonReader] (maxMessageLen n : ℕ) {signals : List (WebRtcSignal E)}
    {frames : List (List UInt8)} {recv : List (List UInt8)}
    (hgeneration : ∀ signal ∈ signals, signal.generation ≤ u64Max)
    (hframes : signals.map (encodeSignal · maxMessageLen) = frames.map .ok)
    (hrecv : recv.flatten = frames.flatten) :
    recvSignals maxMessageLen (signals.length + n) recv =
      signals.map .ok ++ List.replicate n (.error .readLength) := by
  induction signals generalizing frames recv with
  | nil =>
    obtain rfl := List.map_eq_nil_iff.mp hframes.symm
    rw [List.length_nil, Nat.zero_add]
    exact recvSignals_end maxMessageLen n hrecv
  | cons signal signals ih =>
    cases frames with
    | nil => cases hframes
    | cons bytes frames =>
      obtain ⟨hbytes, hframes⟩ := List.cons.inj hframes
      obtain ⟨hsignal, hleft⟩ :=
        readSignal_encoded (hgeneration signal List.mem_cons_self) hbytes hrecv
      have hrest := ih (fun s hs => hgeneration s (List.mem_cons_of_mem _ hs)) hframes hleft
      rw [List.length_cons, Nat.add_right_comm, recvSignals]
      rcases hread : readSignal recv maxMessageLen with ⟨result, left⟩
      rw [hread] at hsignal hrest
      obtain rfl : result = .ok signal := hsignal
      rw [List.map_cons, List.cons_append, ← hrest]

/-- **What was written is what is read**: the signals of calls that were all accepted are read, in
order, from what these calls have added to the stream. -/
theorem recvSignals_written [JsonReader] (maxMessageLen n : ℕ) {signals : List (WebRtcSignal E)}
    {send send' : SendStream} {recv : List (List UInt8)}
    (hgeneration : ∀ signal ∈ signals, signal.generation ≤ u64Max)
    (hwrite : sendSignals maxMessageLen send signals = (.ok (), send'))
    (hrecv : send.written ++ recv.flatten = send'.written) :
    recvSignals maxMessageLen (signals.length + n) recv =
      signals.map .ok ++ List.replicate n (.error .readLength) := by
  obtain ⟨frames, hframes, hwritten⟩ := sendSignals_eq_ok hwrite
  rw [hwritten] at hrecv
  exact recvSignals_encoded maxMessageLen n hgeneration hframes (List.append_cancel_left hrecv)

/-! ## The framing -/

/-- **The framing of bootstrap streams.**  Signals that were encoded are read back in order wherever
the chunks end, and every further call fails; a signal that is too long is refused before anything
of it is sent, and a length that is too large before anything of the body is read; and decoding
undoes encoding.

The encodings are what is on the stream: a signal that is accepted is written as exactly its
encoding, so the signals of any number of accepted calls are the ones that the peer reads. -/
theorem bootstrap_framing [JsonReader] (maxMessageLen : ℕ) :
    (∀ (signals : List (WebRtcSignal E)) (frames recv : List (List UInt8)) (n : ℕ),
      (∀ signal ∈ signals, signal.generation ≤ u64Max) →
      signals.map (encodeSignal · maxMessageLen) = frames.map .ok →
      recv.flatten = frames.flatten →
      recvSignals maxMessageLen (signals.length + n) recv =
        signals.map .ok ++ List.replicate n (.error .readLength)) ∧
    (∀ (signal : WebRtcSignal E) (send : SendStream), maxMessageLen < signal.body.length →
      writeSignal send signal maxMessageLen =
        (.error (.tooLong signal.body.length maxMessageLen), send)) ∧
    (∀ (len : FixedBytes 4) (rest : List UInt8) (recv : List (List UInt8)),
      maxMessageLen < fromBe len.toList → recv.flatten = len.toList ++ rest →
      (readSignal (E := E) recv maxMessageLen).1 =
          .error (.tooLong (fromBe len.toList) maxMessageLen) ∧
        (readSignal (E := E) recv maxMessageLen).2.flatten = rest) ∧
    (∀ signal : WebRtcSignal E, signal.generation ≤ u64Max →
      decodeSignalBody signal.body = .ok signal) ∧
    (∀ (signal : WebRtcSignal E) (send send' : SendStream),
      writeSignal send signal maxMessageLen = (.ok (), send') →
      ∃ bytes, encodeSignal signal maxMessageLen = .ok bytes ∧
        send'.written = send.written ++ bytes) ∧
    (∀ (signals : List (WebRtcSignal E)) (send send' : SendStream) (recv : List (List UInt8))
      (n : ℕ), (∀ signal ∈ signals, signal.generation ≤ u64Max) →
      sendSignals maxMessageLen send signals = (.ok (), send') →
      send.written ++ recv.flatten = send'.written →
      recvSignals maxMessageLen (signals.length + n) recv =
        signals.map .ok ++ List.replicate n (.error .readLength)) := by
  refine ⟨fun signals frames recv n hgeneration hframes hrecv => ?_, fun signal send hlong => ?_,
    fun len rest recv hlong hrecv => ?_, fun signal hgeneration => ?_,
    fun signal send send' hwrite => ?_, fun signals send send' recv n hgeneration hwrite hrecv => ?_⟩
  · exact recvSignals_encoded maxMessageLen n hgeneration hframes hrecv
  · exact writeSignal_of_tooLong hlong send
  · exact readSignal_of_tooLong hrecv hlong
  · exact decodeSignalBody_body hgeneration
  · exact writeSignal_eq_ok hwrite
  · exact recvSignals_written maxMessageLen n hgeneration hwrite hrecv

section Sample

open scoped Sample Json
open Sample

/-- Ids in hexadecimal digits. -/
local instance : EndpointText Key where
  toText key := String.ofList (toHex key.toList)
  ofText s := (ofHex s.toList).bind (FixedBytes.ofList? 32)
  ofText_toText key := by
    rw [String.toList_ofList, ofHex_toHex, Option.bind_some, FixedBytes.ofList?_toList]

/-- A dial request with an empty ALPN and its end without message. -/
def Sample.shortSession : List (WebRtcSignal Key) :=
  [.dialRequest (.replicate 16 7) alice bob 0 "" .webRtcPreferred,
    .terminal (.replicate 16 7) alice bob 0 .closed none]

/-- The two signals arrive one byte in a chunk. -/
theorem bootstrap_framing_sample :
    ∃ frames : List (List UInt8),
      shortSession.map (encodeSignal · defaultMaxBootstrapMessageLen) = frames.map .ok ∧
      recvSignals defaultMaxBootstrapMessageLen 3 (frames.flatten.map fun b => [b]) =
        shortSession.map .ok ++ [.error .readLength] := by
  have hshort : ∀ signal ∈ shortSession, signal.body.length ≤ defaultMaxBootstrapMessageLen := by
    decide +kernel
  have hframes : shortSession.map (encodeSignal · defaultMaxBootstrapMessageLen) =
      (shortSession.map fun signal => toBe 4 signal.body.length ++ signal.body).map .ok := by
    rw [List.map_map]
    refine List.map_congr_left fun signal hsignal => ?_
    exact encodeSignal_of_le (hshort signal hsignal) (by decide)
  refine ⟨_, hframes, (bootstrap_framing defaultMaxBootstrapMessageLen).1 shortSession _ _ 1
    (by decide) hframes ?_⟩
  induction (shortSession.map fun signal => toBe 4 signal.body.length ++ signal.body).flatten with
  | nil => rfl
  | cons b bs ih => rw [List.map_cons, List.flatten_cons, ih, List.singleton_append]

end Sample

end IrohWebRtc
