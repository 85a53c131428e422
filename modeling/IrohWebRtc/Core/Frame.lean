import IrohWebRtc.Core.Error
import IrohWebRtc.Lib.Bytes

/-!
# The packet frame codec

The binary frame of `core/frame.rs`: a thirty-byte header

`magic[4] ++ version[1] ++ flags[1] ++ session_id[16] ++ segment_size[4] ++ payload_len[4]`

followed by the payload.  The decoder runs on bytes a peer chose, so what matters is that it
accepts exactly the images of the encoder.

A `usize` has the width of a pointer, thirty-two bits on `wasm32`, and the length check of the
decoder adds the header length to a length field that may be any `u32`.  The sum wraps there, so
the width is a parameter.  A vector of more than `isize::MAX` bytes does not exist, and asking for
one panics; `encode` returns `none` then.

## Normalisation

A segment size that is not smaller than the payload says nothing: the payload is one segment.  The
encoder drops such a size, so a frame comes back without it, and the decoder rejects it, so no
peer can send it.  `IsNormalized` is what is left, and `normalized` the way there; the modules
that follow deal with normalised frames only.

## Main results

* `decodeHeader_eq_ok`: the header decoder accepts `bs` exactly when `bs` starts with the encoding
  of that header.
* `decode_encode_exact`: decoding inverts encoding up to normalisation, and accepts nothing else.
-/

namespace IrohWebRtc

open Bytes

/-! ## Widths -/

/-- The pointer widths the crate is built for. -/
inductive PointerWidth where
  | w32
  | w64
  deriving DecidableEq

namespace PointerWidth

def bits : PointerWidth → ℕ
  | w32 => 32
  | w64 => 64

/-- The value of an addition of two `usize`s, which wraps. -/
def wrap (pw : PointerWidth) (n : ℕ) : ℕ := n % 2 ^ pw.bits

/-- `isize::MAX`, the largest size of a slice or a vector in bytes. -/
def isizeMax (pw : PointerWidth) : ℕ := 2 ^ (pw.bits - 1) - 1

end PointerWidth

/-- `u32::MAX`. -/
def u32Max : ℕ := 2 ^ 32 - 1

/-! ## The format -/

/-- Four-byte frame marker, `IWRT`. -/
def frameMagic : List UInt8 := [0x49, 0x57, 0x52, 0x54]

/-- Binary frame format version. -/
def frameVersion : UInt8 := 4

/-- Maximum payload bytes accepted for one decoded transmit. -/
def defaultMaxPayloadLen : ℕ := 65535

def headerLen : ℕ := 4 + 1 + 1 + 16 + 4 + 4

/-- One datagram, or several of `segmentSize` bytes back to back. -/
structure WebRtcPacketFrame where
  flags : UInt8
  sessionId : FixedBytes 16
  segmentSize : Option ℕ
  payload : List UInt8
  deriving DecidableEq

structure FrameHeader where
  flags : UInt8
  sessionId : FixedBytes 16
  segmentSize : Option ℕ
  payloadLen : ℕ
  deriving DecidableEq

/-- The segment size as it is written: zero for an unsegmented payload.  A size that the payload
does not exceed is written as zero too. -/
def normalizedSegmentSize (segmentSize : Option ℕ) (payloadLen : ℕ) : Except Error ℕ :=
  match segmentSize with
  | none => .ok 0
  | some segmentSize =>
    if segmentSize = 0 then .error (.invalidFrame "segment size is zero")
    else if payloadLen ≤ segmentSize then .ok 0
    else if u32Max < segmentSize then .error (.invalidFrame "segment size exceeds u32")
    else .ok segmentSize

/-- The header bytes `encode` writes before the payload. -/
def headerBytes (flags : UInt8) (sessionId : FixedBytes 16) (segmentSize payloadLen : ℕ) :
    List UInt8 :=
  frameMagic ++ frameVersion :: flags ::
    (sessionId.toList ++ toBe 4 segmentSize ++ toBe 4 payloadLen)

/-- What the header decoder makes of the segment size field. -/
def decodeSegmentSize (segmentSize payloadLen : ℕ) : Except Error (Option ℕ) :=
  match segmentSize with
  | 0 => .ok none
  | size + 1 =>
    if payloadLen ≤ size + 1 then
      .error (.invalidFrame "segment size is not smaller than payload")
    else .ok (some (size + 1))

def decodeHeader (bytes : List UInt8) : Except Error FrameHeader :=
  if bytes.length < headerLen then .error (.invalidFrame "frame too short")
  else if bytes.take 4 ≠ frameMagic then .error (.invalidFrame "bad magic")
  else if bytes.getD 4 0 ≠ frameVersion then .error (.invalidFrame "unsupported version")
  else
    match FixedBytes.ofList? 16 (slice bytes 6 22) with
    | none => .error (.invalidFrame "invalid session id length")
    | some sessionId =>
      let payloadLen := fromBe (slice bytes 26 30)
      match decodeSegmentSize (fromBe (slice bytes 22 26)) payloadLen with
      | .error err => .error err
      | .ok segmentSize => .ok ⟨bytes.getD 5 0, sessionId, segmentSize, payloadLen⟩

namespace WebRtcPacketFrame

/-- The outer `none` is the panic of a vector that would be larger than `isize::MAX`. -/
def encode (pw : PointerWidth) (frame : WebRtcPacketFrame) (maxPayloadLen : ℕ) :
    Option (Except Error (List UInt8)) :=
  if frame.payload = [] then some (.error (.invalidFrame "payload is empty"))
  else if maxPayloadLen < frame.payload.length then
    some (.error (.payloadTooLarge frame.payload.length maxPayloadLen))
  else if u32Max < frame.payload.length then
    some (.error (.invalidFrame "payload length exceeds u32"))
  else
    match normalizedSegmentSize frame.segmentSize frame.payload.length with
    | .error err => some (.error err)
    | .ok segmentSize =>
      if pw.isizeMax < headerLen + frame.payload.length then none
      else some (.ok (headerBytes frame.flags frame.sessionId segmentSize frame.payload.length ++
        frame.payload))

def decode (pw : PointerWidth) (bytes : List UInt8) (maxPayloadLen : ℕ) :
    Except Error WebRtcPacketFrame :=
  match decodeHeader bytes with
  | .error err => .error err
  | .ok header =>
    if bytes.length ≠ pw.wrap (headerLen + header.payloadLen) then
      .error (.invalidFrame "payload length mismatch")
    else if header.payloadLen = 0 then .error (.invalidFrame "payload is empty")
    else if maxPayloadLen < header.payloadLen then
      .error (.payloadTooLarge header.payloadLen maxPayloadLen)
    else .ok ⟨header.flags, header.sessionId, header.segmentSize, bytes.drop headerLen⟩

/-- The session id of a frame, read from its header alone. -/
def sessionIdOf (bytes : List UInt8) : Except Error (FixedBytes 16) :=
  match decodeHeader bytes with
  | .error err => .error err
  | .ok header => .ok header.sessionId

/-- The frame with a segment size that its payload does not exceed dropped. -/
def normalized (frame : WebRtcPacketFrame) : WebRtcPacketFrame :=
  { frame with segmentSize := frame.segmentSize.filter (· < frame.payload.length) }

/-- The frames the decoder produces: a nonempty payload, and a segment size only where there is
more than one segment. -/
structure IsNormalized (frame : WebRtcPacketFrame) : Prop where
  payload_ne_nil : frame.payload ≠ []
  segmentSize_pos : ∀ size ∈ frame.segmentSize, 0 < size
  segmentSize_lt : ∀ size ∈ frame.segmentSize, size < frame.payload.length

end WebRtcPacketFrame

/-! ## The fields of a header -/

@[simp] theorem length_headerBytes (flags : UInt8) (sid : FixedBytes 16) (seg len : ℕ) :
    (headerBytes flags sid seg len).length = headerLen := by
  simp [headerBytes, frameMagic, headerLen]

/-- A string of at least thirty bytes, cut at the field boundaries. -/
theorem exists_fields {bs : List UInt8} (h : headerLen ≤ bs.length) :
    ∃ (magic : List UInt8) (version flags : UInt8) (sid : FixedBytes 16)
      (seg len rest : List UInt8), magic.length = 4 ∧ seg.length = 4 ∧ len.length = 4 ∧
      bs = magic ++ version :: flags :: (sid.toList ++ (seg ++ (len ++ rest))) := by
  have h30 : 30 ≤ bs.length := h
  refine ⟨bs.take 4, bs[4], bs[5], ⟨slice bs 6 22, length_slice (by omega)⟩, slice bs 22 26,
    slice bs 26 30, bs.drop 30, ?_, length_slice (by omega), length_slice (by omega), ?_⟩
  · rw [List.length_take]; omega
  · rw [slice_append_drop (by omega), slice_append_drop (by omega), slice_append_drop (by omega),
      List.getElem_cons_drop, List.getElem_cons_drop, List.take_append_drop]

/-- The header decoder on a string cut at the field boundaries. -/
theorem decodeHeader_fields {magic seg len rest : List UInt8} {version flags : UInt8}
    {sid : FixedBytes 16} (hmagic : magic.length = 4) (hseg : seg.length = 4)
    (hlen : len.length = 4) :
    decodeHeader (magic ++ version :: flags :: (sid.toList ++ (seg ++ (len ++ rest)))) =
      if magic ≠ frameMagic then .error (.invalidFrame "bad magic")
      else if version ≠ frameVersion then .error (.invalidFrame "unsupported version")
      else
        match decodeSegmentSize (fromBe seg) (fromBe len) with
        | .error err => .error err
        | .ok segmentSize => .ok ⟨flags, sid, segmentSize, fromBe len⟩ := by
  have hsid := sid.length_toList
  generalize hbs : magic ++ version :: flags :: (sid.toList ++ (seg ++ (len ++ rest))) = bs
  have hlong : ¬ bs.length < headerLen := by
    rw [← hbs, headerLen]
    simp only [List.length_append, List.length_cons]
    omega
  have h4 : bs.getD 4 0 = version := by rw [← hbs, ← hmagic]; simp
  have h5 : bs.getD 5 0 = flags := by
    obtain ⟨m₀, m₁, m₂, m₃, rfl⟩ := List.length_eq_four.mp hmagic
    rw [← hbs]; rfl
  have htake : bs.take 4 = magic := by rw [← hbs, ← hmagic, List.take_left]
  have hslice_sid : slice bs 6 22 = sid.toList := by
    rw [← hbs, List.append_cons, List.append_cons]
    exact slice_middle (by simp [hmagic]) (by simp)
  have hslice_seg : slice bs 22 26 = seg := by
    rw [← hbs, List.append_cons, List.append_cons, ← List.append_assoc]
    exact slice_middle (by simp [hmagic]) (by simp [hseg])
  have hslice_len : slice bs 26 30 = len := by
    rw [← hbs, List.append_cons, List.append_cons, ← List.append_assoc, ← List.append_assoc]
    exact slice_middle (by simp [hmagic, hseg]) (by simp [hlen])
  rw [decodeHeader, if_neg hlong, htake, h4, h5, hslice_sid, hslice_seg, hslice_len,
    FixedBytes.ofList?_toList]

/-! ## The two directions of the header -/

theorem decodeSegmentSize_eq_ok {segmentSize payloadLen : ℕ} {size : Option ℕ} :
    decodeSegmentSize segmentSize payloadLen = .ok size ↔
      size.getD 0 = segmentSize ∧ ∀ s ∈ size, 0 < s ∧ s < payloadLen := by
  cases segmentSize with
  | zero =>
    rw [decodeSegmentSize, Except.ok.injEq]
    constructor
    · rintro rfl
      simp
    · rintro ⟨h0, hs⟩
      cases size with
      | none => rfl
      | some s =>
        have hpos := (hs s rfl).1
        rw [Option.getD_some] at h0
        omega
  | succ n =>
    rw [decodeSegmentSize]
    split
    · rename_i hle
      refine iff_of_false (by simp) ?_
      rintro ⟨h0, hs⟩
      cases size with
      | none => simp at h0
      | some s =>
        have hlt := (hs s rfl).2
        rw [Option.getD_some] at h0
        omega
    · rename_i hlt
      rw [Except.ok.injEq]
      constructor
      · rintro rfl
        refine ⟨rfl, fun s hs => ?_⟩
        obtain rfl : n + 1 = s := Option.some.inj hs
        omega
      · rintro ⟨h0, -⟩
        cases size with
        | none => simp at h0
        | some s => rw [← h0, Option.getD_some]

/-- **The header decoder accepts exactly the encoded headers.**  It ignores what follows them. -/
theorem decodeHeader_eq_ok {bs : List UInt8} {header : FrameHeader} :
    decodeHeader bs = .ok header ↔
      header.payloadLen < 256 ^ 4 ∧
        (∀ size ∈ header.segmentSize, 0 < size ∧ size < header.payloadLen) ∧
        ∃ rest, bs = headerBytes header.flags header.sessionId (header.segmentSize.getD 0)
          header.payloadLen ++ rest := by
  constructor
  · intro h
    have hlong : headerLen ≤ bs.length := by
      by_contra hshort
      rw [decodeHeader, if_pos (not_le.mp hshort)] at h
      exact absurd h (by simp)
    obtain ⟨magic, version, flags, sid, seg, len, rest, hmagic, hseg, hlen, rfl⟩ :=
      exists_fields hlong
    rw [decodeHeader_fields hmagic hseg hlen] at h
    split_ifs at h with hm hv
    rw [not_not] at hm hv
    cases hd : decodeSegmentSize (fromBe seg) (fromBe len) with
    | error err => rw [hd] at h; exact absurd h (by simp)
    | ok size =>
      rw [hd, Except.ok.injEq] at h
      obtain ⟨hget, hsize⟩ := decodeSegmentSize_eq_ok.mp hd
      subst h
      have hlt := fromBe_lt len
      refine ⟨by rwa [hlen] at hlt, hsize, rest, ?_⟩
      have hs4 : toBe 4 (fromBe seg) = seg := by rw [← hseg, toBe_fromBe]
      have hl4 : toBe 4 (fromBe len) = len := by rw [← hlen, toBe_fromBe]
      simp only [headerBytes, hm, hv, hget, hs4, hl4, List.append_assoc, List.cons_append]
  · rintro ⟨hlt, hsize, rest, rfl⟩
    have hseg : header.segmentSize.getD 0 < 256 ^ 4 := by
      cases hs : header.segmentSize with
      | none => simp
      | some s => exact lt_trans (hsize s hs).2 hlt
    have hd : decodeSegmentSize (header.segmentSize.getD 0) header.payloadLen =
        .ok header.segmentSize := decodeSegmentSize_eq_ok.mpr ⟨rfl, hsize⟩
    simp only [headerBytes, List.append_assoc, List.cons_append]
    rw [decodeHeader_fields rfl (length_toBe 4 _) (length_toBe 4 _), fromBe_toBe hlt,
      fromBe_toBe hseg, hd]
    simp

/-! ## The codec -/

namespace WebRtcPacketFrame

theorem normalizedSegmentSize_eq_ok {size : Option ℕ} {payloadLen n : ℕ}
    (hlen : payloadLen ≤ u32Max) :
    normalizedSegmentSize size payloadLen = .ok n ↔
      size ≠ some 0 ∧ n = (size.filter (· < payloadLen)).getD 0 := by
  cases size with
  | none => simp [normalizedSegmentSize, eq_comm]
  | some s =>
    rw [normalizedSegmentSize]
    by_cases h0 : s = 0
    · simp [h0]
    rw [if_neg h0]
    by_cases hle : payloadLen ≤ s
    · rw [if_pos hle, Option.filter_some_neg (by simpa using hle)]
      simp [h0, eq_comm]
    · have hs : ¬ u32Max < s := by omega
      rw [if_neg hle, if_neg hs, Option.filter_some_pos (by simpa using hle)]
      simp [h0, eq_comm]

/-- What `encode` writes, and exactly when it does. -/
theorem encode_eq_ok {pw : PointerWidth} {f : WebRtcPacketFrame} {maxPayloadLen : ℕ}
    {bs : List UInt8} :
    encode pw f maxPayloadLen = some (.ok bs) ↔
      f.payload ≠ [] ∧ f.payload.length ≤ maxPayloadLen ∧ f.payload.length ≤ u32Max ∧
        f.segmentSize ≠ some 0 ∧ headerLen + f.payload.length ≤ pw.isizeMax ∧
        bs = headerBytes f.flags f.sessionId (f.normalized.segmentSize.getD 0) f.payload.length ++
          f.payload := by
  rw [encode]
  by_cases hne : f.payload = []
  · simp [hne]
  by_cases hmax : maxPayloadLen < f.payload.length
  · rw [if_neg hne, if_pos hmax]
    exact iff_of_false (by simp) fun h => absurd h.2.1 (not_le.mpr hmax)
  by_cases hu32 : u32Max < f.payload.length
  · rw [if_neg hne, if_neg hmax, if_pos hu32]
    exact iff_of_false (by simp) fun h => absurd h.2.2.1 (not_le.mpr hu32)
  rw [if_neg hne, if_neg hmax, if_neg hu32]
  rw [not_lt] at hmax hu32
  cases hs : normalizedSegmentSize f.segmentSize f.payload.length with
  | error err =>
    refine iff_of_false (by simp) fun h => ?_
    rw [(normalizedSegmentSize_eq_ok hu32).mpr ⟨h.2.2.2.1, rfl⟩] at hs
    exact absurd hs (by simp)
  | ok n =>
    obtain ⟨h0, rfl⟩ := (normalizedSegmentSize_eq_ok hu32).mp hs
    by_cases hbig : pw.isizeMax < headerLen + f.payload.length
    · simp only [if_pos hbig]
      exact iff_of_false (by simp) fun h => absurd h.2.2.2.2.1 (not_le.mpr hbig)
    · simp only [if_neg hbig, Option.some.injEq, Except.ok.injEq]
      constructor
      · rintro rfl
        exact ⟨hne, hmax, hu32, h0, not_lt.mp hbig, rfl⟩
      · rintro ⟨-, -, -, -, -, rfl⟩
        rfl

/-- A wrapped sum that is at least the header length has not wrapped. -/
theorem eq_of_wrap_eq {pw : PointerWidth} {n m : ℕ} (hn : n < 256 ^ 4)
    (h : headerLen + m = pw.wrap (headerLen + n)) : n = m ∧ headerLen + m < 2 ^ pw.bits := by
  have hlt : pw.wrap (headerLen + n) < 2 ^ pw.bits := Nat.mod_lt _ (Nat.two_pow_pos _)
  refine ⟨?_, by omega⟩
  cases pw <;> simp only [PointerWidth.wrap, PointerWidth.bits, headerLen] at h <;> omega

theorem decodeHeader_of_isNormalized {f : WebRtcPacketFrame} (hnorm : f.IsNormalized)
    (hu32 : f.payload.length ≤ u32Max) :
    decodeHeader (headerBytes f.flags f.sessionId (f.segmentSize.getD 0) f.payload.length ++
      f.payload) = .ok ⟨f.flags, f.sessionId, f.segmentSize, f.payload.length⟩ := by
  refine decodeHeader_eq_ok.mpr ⟨?_, fun s hs => ?_, f.payload, rfl⟩
  · show f.payload.length < 256 ^ 4
    rw [u32Max] at hu32
    omega
  · exact ⟨hnorm.segmentSize_pos s hs, hnorm.segmentSize_lt s hs⟩

/-- What `decode` accepts, exactly. -/
theorem decode_eq_ok {pw : PointerWidth} {bs : List UInt8} {maxPayloadLen : ℕ}
    {f : WebRtcPacketFrame} :
    decode pw bs maxPayloadLen = .ok f ↔
      f.IsNormalized ∧ f.payload.length ≤ maxPayloadLen ∧ f.payload.length ≤ u32Max ∧
        headerLen + f.payload.length < 2 ^ pw.bits ∧
        bs = headerBytes f.flags f.sessionId (f.segmentSize.getD 0) f.payload.length ++
          f.payload := by
  constructor
  · intro h
    rw [decode] at h
    cases hd : decodeHeader bs with
    | error err => rw [hd] at h; exact absurd h (by simp)
    | ok header =>
      obtain ⟨hlt, hsize, rest, hbs⟩ := decodeHeader_eq_ok.mp hd
      have hdrop : bs.drop headerLen = rest := by
        rw [hbs, ← length_headerBytes header.flags header.sessionId
          (header.segmentSize.getD 0) header.payloadLen, List.drop_left]
      rw [hd] at h
      simp only at h
      split_ifs at h with hlen hzero hmax
      rw [hdrop, Except.ok.injEq] at h
      rw [not_not, hbs, List.length_append, length_headerBytes] at hlen
      rw [not_lt] at hmax
      obtain ⟨hrest, hfit⟩ := eq_of_wrap_eq hlt hlen
      subst h
      rw [hrest] at hbs hmax hlt hzero hsize
      refine ⟨⟨?_, fun s hs => (hsize s hs).1, fun s hs => (hsize s hs).2⟩, hmax, ?_, hfit, hbs⟩
      · rintro (h0 : rest = [])
        simp [h0] at hzero
      · show rest.length ≤ u32Max
        rw [u32Max]
        omega
  · rintro ⟨hnorm, hmax, hu32, hfit, rfl⟩
    have hne : f.payload.length ≠ 0 := fun h0 =>
      hnorm.payload_ne_nil (List.length_eq_zero_iff.mp h0)
    have hwrap : pw.wrap (headerLen + f.payload.length) = headerLen + f.payload.length :=
      Nat.mod_eq_of_lt hfit
    rw [decode, decodeHeader_of_isNormalized hnorm hu32]
    simp only [List.length_append, length_headerBytes, hwrap, not_true_eq_false, if_false,
      if_neg hne, if_neg (not_lt.mpr hmax), ne_eq]
    rw [← length_headerBytes f.flags f.sessionId (f.segmentSize.getD 0) f.payload.length,
      List.drop_left]

theorem IsNormalized.normalized_eq {f : WebRtcPacketFrame} (h : f.IsNormalized) :
    f.normalized = f := by
  have hs : f.segmentSize.filter (· < f.payload.length) = f.segmentSize := by
    cases hsize : f.segmentSize with
    | none => rfl
    | some s => simp [h.segmentSize_lt s hsize]
  rw [normalized, hs]

theorem isNormalized_normalized {f : WebRtcPacketFrame} (hne : f.payload ≠ [])
    (h0 : f.segmentSize ≠ some 0) : f.normalized.IsNormalized := by
  refine ⟨hne, fun s hs => ?_, fun s hs => ?_⟩
  · obtain ⟨hs, -⟩ := Option.mem_filter_iff.mp hs
    rcases Nat.eq_zero_or_pos s with rfl | hpos
    · exact absurd hs h0
    · exact hpos
  · show s < f.payload.length
    simpa using (Option.mem_filter_iff.mp hs).2

theorem isizeMax_lt (pw : PointerWidth) : pw.isizeMax < 2 ^ pw.bits := by
  cases pw <;> simp [PointerWidth.isizeMax, PointerWidth.bits]

/-- Encoding the frame succeeds, and decoding the result gives it back, normalised. -/
def RoundTrips (pw : PointerWidth) (maxPayloadLen : ℕ) (f : WebRtcPacketFrame) : Prop :=
  ∃ bs, encode pw f maxPayloadLen = some (.ok bs) ∧ decode pw bs maxPayloadLen = .ok f.normalized

/-- **The codec is exact.**  On frames whose payload is nonempty, within the maximum and within
`u32::MAX`, and whose encoding is a vector that can exist, decoding the encoding gives the frame
back, normalised.  On strings that can exist, the decoder accepts exactly the encodings of
normalised frames within the maximum.  The session id read from the header is the frame's. -/
theorem decode_encode_exact (pw : PointerWidth) (maxPayloadLen : ℕ) :
    (∀ f : WebRtcPacketFrame, f.payload ≠ [] → f.payload.length ≤ maxPayloadLen →
      f.payload.length ≤ u32Max → headerLen + f.payload.length ≤ pw.isizeMax →
      f.segmentSize ≠ some 0 → RoundTrips pw maxPayloadLen f) ∧
    (∀ (bs : List UInt8) (f : WebRtcPacketFrame), bs.length ≤ pw.isizeMax →
      (decode pw bs maxPayloadLen = .ok f ↔
        f.IsNormalized ∧ f.payload.length ≤ maxPayloadLen ∧
          encode pw f maxPayloadLen = some (.ok bs))) ∧
    (∀ (bs : List UInt8) (f : WebRtcPacketFrame), decode pw bs maxPayloadLen = .ok f →
      sessionIdOf bs = .ok f.sessionId) := by
  have hisize := isizeMax_lt pw
  refine ⟨fun f hne hmax hu32 hfit h0 => ?_, fun bs f hbs => ?_, fun bs f h => ?_⟩
  · refine ⟨_, encode_eq_ok.mpr ⟨hne, hmax, hu32, h0, hfit, rfl⟩, decode_eq_ok.mpr ?_⟩
    exact ⟨isNormalized_normalized hne h0, hmax, hu32, lt_of_le_of_lt hfit hisize, rfl⟩
  · constructor
    · intro h
      obtain ⟨hnorm, hmax, hu32, -, rfl⟩ := decode_eq_ok.mp h
      rw [List.length_append, length_headerBytes] at hbs
      refine ⟨hnorm, hmax, encode_eq_ok.mpr ⟨hnorm.payload_ne_nil, hmax, hu32, ?_, hbs, ?_⟩⟩
      · intro h0
        exact absurd (hnorm.segmentSize_pos 0 h0) (lt_irrefl 0)
      · rw [hnorm.normalized_eq]
    · rintro ⟨hnorm, hmax, henc⟩
      obtain ⟨-, -, hu32, -, hfit, rfl⟩ := encode_eq_ok.mp henc
      refine decode_eq_ok.mpr ⟨hnorm, hmax, hu32, lt_of_le_of_lt hfit hisize, ?_⟩
      rw [hnorm.normalized_eq]
  · obtain ⟨hnorm, -, hu32, -, rfl⟩ := decode_eq_ok.mp h
    rw [sessionIdOf, decodeHeader_of_isNormalized hnorm hu32]

/-- The frame of one datagram, `hello`, with a segment size that it does not exceed. -/
def helloFrame : WebRtcPacketFrame where
  flags := 3
  sessionId := FixedBytes.replicate 16 1
  segmentSize := some 9
  payload := [0x68, 0x65, 0x6c, 0x6c, 0x6f]

theorem decode_encode_exact_hello :
    RoundTrips .w32 defaultMaxPayloadLen helloFrame ∧
      decode .w32 (headerBytes 3 (FixedBytes.replicate 16 1) 0 5 ++ helloFrame.payload)
        defaultMaxPayloadLen = .ok helloFrame.normalized ∧
      sessionIdOf (headerBytes 3 (FixedBytes.replicate 16 1) 0 5 ++ helloFrame.payload) =
        .ok helloFrame.sessionId := by
  have hexact := decode_encode_exact .w32 defaultMaxPayloadLen
  have hdecode := (hexact.2.1 (headerBytes 3 (FixedBytes.replicate 16 1) 0 5 ++ helloFrame.payload)
    helloFrame.normalized (by decide)).mpr
      ⟨isNormalized_normalized (by decide) (by decide), by decide, by decide⟩
  exact ⟨hexact.1 helloFrame (by decide) (by decide) (by decide) (by decide) (by decide), hdecode,
    hexact.2.2 _ helloFrame.normalized hdecode⟩

/-- An unsegmented frame of `n` zero bytes. -/
def zeroFrame (n : ℕ) : WebRtcPacketFrame where
  flags := 0
  sessionId := FixedBytes.replicate 16 0
  segmentSize := none
  payload := List.replicate n 0

/-- Two frames within the maximum, each a vector that can exist, on which encoding does not
succeed: `2 ^ 32` bytes on a 64-bit platform, refused by the length field, and `isize::MAX` bytes
on a 32-bit one, where the header does not fit the vector any more. -/
theorem not_roundTrips_zeroFrame :
    ((zeroFrame (2 ^ 32)).payload ≠ [] ∧ (zeroFrame (2 ^ 32)).payload.length ≤ 2 ^ 32 ∧
      (zeroFrame (2 ^ 32)).payload.length ≤ PointerWidth.isizeMax .w64 ∧
      (zeroFrame (2 ^ 32)).segmentSize ≠ some 0 ∧
      encode .w64 (zeroFrame (2 ^ 32)) (2 ^ 32) =
        some (.error (.invalidFrame "payload length exceeds u32")) ∧
      ¬ RoundTrips .w64 (2 ^ 32) (zeroFrame (2 ^ 32))) ∧
    ((zeroFrame (2 ^ 31 - 1)).payload ≠ [] ∧
      (zeroFrame (2 ^ 31 - 1)).payload.length ≤ 2 ^ 31 - 1 ∧
      (zeroFrame (2 ^ 31 - 1)).payload.length ≤ PointerWidth.isizeMax .w32 ∧
      (zeroFrame (2 ^ 31 - 1)).segmentSize ≠ some 0 ∧
      encode .w32 (zeroFrame (2 ^ 31 - 1)) (2 ^ 31 - 1) = none ∧
      ¬ RoundTrips .w32 (2 ^ 31 - 1) (zeroFrame (2 ^ 31 - 1))) := by
  have hlen : ∀ n, (zeroFrame n).payload.length = n := fun n => List.length_replicate
  have hne : ∀ n, n ≠ 0 → (zeroFrame n).payload ≠ [] := fun n hn h0 =>
    hn (by rw [← hlen n, h0, List.length_nil])
  have hseg : ∀ n, (zeroFrame n).segmentSize ≠ some 0 := fun n => by simp [zeroFrame]
  have h64 : encode .w64 (zeroFrame (2 ^ 32)) (2 ^ 32) =
      some (.error (.invalidFrame "payload length exceeds u32")) := by
    rw [encode, if_neg (hne _ (by decide)), hlen, if_neg (lt_irrefl _),
      if_pos (by decide)]
  have h32 : encode .w32 (zeroFrame (2 ^ 31 - 1)) (2 ^ 31 - 1) = none := by
    rw [encode, if_neg (hne _ (by decide)), hlen, if_neg (lt_irrefl _),
      if_neg (by decide)]
    exact if_pos (by decide)
  refine ⟨⟨hne _ (by decide), (hlen _).le, ?_, hseg _, h64, ?_⟩,
    ⟨hne _ (by decide), (hlen _).le, ?_, hseg _, h32, ?_⟩⟩
  · rw [hlen]; decide
  · rintro ⟨bs, henc, -⟩
    rw [h64] at henc
    exact absurd henc (by simp)
  · rw [hlen]; decide
  · rintro ⟨bs, henc, -⟩
    rw [h32] at henc
    exact absurd henc (by simp)

end WebRtcPacketFrame

end IrohWebRtc
