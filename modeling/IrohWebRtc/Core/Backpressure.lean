import IrohWebRtc.Core.Config
import IrohWebRtc.Lib.Runs

/-!
# Backpressure of the outbound pumps

The loops of `pump_outbound_frames` in `native.rs` and `pump_outbound_data_channel` in
`browser_runtime/direct/data_channel.rs`.  A pump compares the buffered amount with the high
threshold before it sends a frame.  Where the frame would go above it, the pump waits until the
amount has fallen to the low threshold, and then it sends the frame without comparing again.  So
the high threshold holds only when a frame always fits between the two.

The two pumps are one system here, `OutboundPump`, with a phase for every place where the loop can
be: it waits for a packet, it has a packet, it waits for capacity, or it is about to send.  They
differ in the integers they add in, `usize` in the one and a saturating `u32` in the other, and
`PumpKind` is that difference.

## What is left to the channel

How waiting ends is not decided here: at or below the low threshold, or because the channel
closed.  The buffer may drain at any moment and by any amount.  `Native.PumpWakeups` and
`Browser.PumpWaits` open this up; they add the callbacks and listeners of the two pumps, and show
that what they do is a run of the loop here.

* `OutboundPump.withinThreshold_iff`: no run sends above the high threshold exactly when the
  largest frame fits between the thresholds, and the high threshold is not the largest integer.
* `OutboundPump.sends_above_threshold`: a valid configuration, and three frames.
-/

namespace IrohWebRtc

open Bytes in
/-- The lengths of the frames a sender encodes are those from one byte of payload to its maximum. -/
theorem WebRtcPacketFrame.length_encode {pw : PointerWidth} {maxPayloadLen len : ℕ}
    (hmax : maxPayloadLen ≤ 65535) :
    (∃ f bs, encode pw f maxPayloadLen = some (.ok bs) ∧ bs.length = len) ↔
      headerLen < len ∧ len ≤ headerLen + maxPayloadLen := by
  constructor
  · rintro ⟨f, bs, hencode, rfl⟩
    obtain ⟨hne, hlen, -, -, -, rfl⟩ := encode_eq_ok.mp hencode
    have hpos := List.length_pos_iff.mpr hne
    rw [List.length_append, length_headerBytes]
    omega
  · rintro ⟨hheader, hlen⟩
    have hlength : (List.replicate (len - headerLen) (0 : UInt8)).length = len - headerLen :=
      List.length_replicate
    generalize List.replicate (len - headerLen) (0 : UInt8) = payload at hlength
    refine ⟨⟨0, .replicate 16 0, none, payload⟩, _,
      encode_eq_ok.mpr ⟨?_, ?_, ?_, nofun, ?_, rfl⟩, ?_⟩
    · intro hnil
      have hempty : payload.length = 0 := congrArg List.length hnil
      omega
    · show payload.length ≤ maxPayloadLen
      omega
    · show payload.length ≤ u32Max
      rw [u32Max]
      omega
    · show headerLen + payload.length ≤ pw.isizeMax
      cases pw <;> simp only [headerLen, PointerWidth.isizeMax, PointerWidth.bits] at * <;> omega
    · rw [List.length_append, length_headerBytes]
      show headerLen + payload.length = len
      omega

/-- The two pumps. -/
inductive PumpKind where
  /-- It adds in `usize`. -/
  | native (pw : PointerWidth)
  /-- It adds in `u32`. -/
  | browser
  deriving DecidableEq

namespace PumpKind

/-- The largest integer of the type. -/
def maxAmount : PumpKind → ℕ
  | native pw => 2 ^ pw.bits - 1
  | browser => u32Max

def saturatingAdd (kind : PumpKind) (n m : ℕ) : ℕ := min (n + m) kind.maxAmount

/-- A threshold as the pump gets it: the browser casts it with `.min(u32::MAX as usize) as u32`. -/
def threshold : PumpKind → ℕ → ℕ
  | native _, n => n
  | browser, n => min n u32Max

/-- The length of a frame as the pump adds it: the browser casts it with `as u32`. -/
def frameLen : PumpKind → ℕ → ℕ
  | native _, n => n
  | browser, n => n % 2 ^ 32

theorem threshold_of_le {n : ℕ} (h : n ≤ u32Max) (kind : PumpKind) : kind.threshold n = n := by
  cases kind with
  | native pw => rfl
  | browser => exact min_eq_left h

theorem frameLen_of_lt {n : ℕ} (h : n < 2 ^ 32) (kind : PumpKind) : kind.frameLen n = n := by
  cases kind with
  | native pw => rfl
  | browser => exact Nat.mod_eq_of_lt h

end PumpKind

/-- Where a pump is in its loop, with the length of the frame it has. -/
inductive PumpPhase where
  | receiving
  /-- It looks at the channel next. -/
  | holding (len : ℕ)
  /-- It waits for capacity. -/
  | waiting (len : ℕ)
  | sending (len : ℕ)
  | stopped
  deriving DecidableEq, Repr

/-- A pump and the buffered amount of its channel. -/
structure OutboundPump where
  bufferedAmount : ℕ
  phase : PumpPhase
  deriving DecidableEq, Repr

inductive OutboundPumpEvent where
  /-- A frame of this length comes out of the route. -/
  | receive (len : ℕ)
  /-- The channel is open, and the pump compares the amount with the high threshold. -/
  | compare
  /-- The amount is at or below the low threshold: before the pump waits, or when it wakes up. -/
  | resume
  | send
  /-- The pump returns, because the route or the channel has closed or the send failed. -/
  | stop
  /-- The channel transmits some of what it has buffered. -/
  | drain (n : ℕ)
  deriving DecidableEq, Repr

namespace OutboundPump

/-- A pump that starts on an empty channel. -/
def new : OutboundPump := ⟨0, .receiving⟩

/-- The frames are encodings of payloads of at most `maxPayloadLen` bytes. -/
def step (kind : PumpKind) (config : WebRtcDataChannelConfig) (maxPayloadLen : ℕ)
    (pump : OutboundPump) : OutboundPumpEvent → Option OutboundPump
  | .receive len =>
    if pump.phase = .receiving ∧ headerLen < len ∧ len ≤ headerLen + maxPayloadLen then
      some { pump with phase := .holding len }
    else none
  | .compare =>
    match pump.phase with
    | .holding len =>
      if kind.threshold config.bufferedAmountHighThreshold <
          kind.saturatingAdd pump.bufferedAmount (kind.frameLen len) then
        some { pump with phase := .waiting len }
      else some { pump with phase := .sending len }
    | _ => none
  | .resume =>
    match pump.phase with
    | .waiting len =>
      if pump.bufferedAmount ≤ kind.threshold config.bufferedAmountLowThreshold then
        some { pump with phase := .sending len }
      else none
    | _ => none
  | .send =>
    match pump.phase with
    | .sending len => some ⟨pump.bufferedAmount + len, .receiving⟩
    | _ => none
  | .stop => some { pump with phase := .stopped }
  | .drain n => some { pump with bufferedAmount := pump.bufferedAmount - n }

/-- A frame that is sent now does not go above the high threshold. -/
def SendsWithin (config : WebRtcDataChannelConfig) (pump : OutboundPump) :
    OutboundPumpEvent → Prop
  | .send => ∀ len, pump.phase = .sending len →
    pump.bufferedAmount + len ≤ config.bufferedAmountHighThreshold
  | _ => True

variable {kind : PumpKind} {config : WebRtcDataChannelConfig} {maxPayloadLen : ℕ}
  {pump pump' : OutboundPump}

/-! ## Frames that fit -/

/-- What a pump knows of its frame: it is one of the frames, and once the pump is about to send it,
it fits. -/
def Fits (config : WebRtcDataChannelConfig) (maxPayloadLen : ℕ) (pump : OutboundPump) : Prop :=
  match pump.phase with
  | .holding len | .waiting len => len ≤ headerLen + maxPayloadLen
  | .sending len => pump.bufferedAmount + len ≤ config.bufferedAmountHighThreshold
  | .receiving | .stopped => True

/-- A step of a pump whose largest frame fits between the thresholds. -/
theorem Fits.step (hvalid : config.validate = .ok ()) (hmax : maxPayloadLen ≤ 65535)
    (hfits : config.bufferedAmountLowThreshold + (headerLen + maxPayloadLen) ≤
      config.bufferedAmountHighThreshold)
    (hhigh : config.bufferedAmountHighThreshold < kind.maxAmount)
    (h : pump.Fits config maxPayloadLen) {event : OutboundPumpEvent}
    (hstep : pump.step kind config maxPayloadLen event = some pump') :
    pump'.Fits config maxPayloadLen := by
  obtain ⟨hlow, hu32⟩ := WebRtcDataChannelConfig.validate_eq_ok.mp hvalid
  obtain ⟨amount, phase⟩ := pump
  cases event with
  | receive len =>
    rw [OutboundPump.step] at hstep
    split_ifs at hstep with hframe
    obtain rfl := Option.some.inj hstep
    exact hframe.2.2
  | compare =>
    cases phase with
    | holding len =>
      have hlen : len ≤ headerLen + maxPayloadLen := h
      have hsmall : len < 2 ^ 32 := by
        rw [headerLen] at hlen
        omega
      simp only [OutboundPump.step, kind.threshold_of_le hu32, kind.frameLen_of_lt hsmall] at hstep
      split_ifs at hstep with habove
      · obtain rfl := Option.some.inj hstep
        exact hlen
      · obtain rfl := Option.some.inj hstep
        -- below the largest integer the sum has not saturated
        rw [PumpKind.saturatingAdd] at habove
        show amount + len ≤ config.bufferedAmountHighThreshold
        omega
    | receiving | waiting | sending | stopped => cases hstep
  | resume =>
    cases phase with
    | waiting len =>
      have hlen : len ≤ headerLen + maxPayloadLen := h
      simp only [OutboundPump.step, kind.threshold_of_le (hlow.le.trans hu32)] at hstep
      split_ifs at hstep with hdrained
      obtain rfl := Option.some.inj hstep
      show amount + len ≤ config.bufferedAmountHighThreshold
      omega
    | receiving | holding | sending | stopped => cases hstep
  | send =>
    cases phase with
    | sending len =>
      obtain rfl := Option.some.inj hstep
      trivial
    | receiving | holding | waiting | stopped => cases hstep
  | stop =>
    obtain rfl := Option.some.inj hstep
    trivial
  | drain n =>
    obtain rfl := Option.some.inj hstep
    cases phase with
    | sending len =>
      have hwithin : amount + len ≤ config.bufferedAmountHighThreshold := h
      show amount - n + len ≤ config.bufferedAmountHighThreshold
      omega
    | holding len | waiting len => exact h
    | receiving | stopped => trivial

/-- A pump whose largest frame fits sends every frame within the high threshold. -/
theorem guarded_of_fits (hvalid : config.validate = .ok ()) (hmax : maxPayloadLen ≤ 65535)
    (hfits : config.bufferedAmountLowThreshold + (headerLen + maxPayloadLen) ≤
      config.bufferedAmountHighThreshold)
    (hhigh : config.bufferedAmountHighThreshold < kind.maxAmount)
    (events : List OutboundPumpEvent) :
    Runs.Guarded (step kind config maxPayloadLen) (SendsWithin config) new events := by
  refine Runs.guarded_iff_forall_split.mpr fun pre event post pump _ hpre => ?_
  have hpump : pump.Fits config maxPayloadLen :=
    Runs.run_invariant (fun _ _ _ h hstep => h.step hvalid hmax hfits hhigh hstep)
      (show new.Fits config maxPayloadLen from trivial) hpre
  cases event with
  | send =>
    intro len hphase
    rw [Fits, hphase] at hpump
    exact hpump
  | receive len | compare | resume | stop | drain n => trivial

/-- Only sending adds to the buffered amount. -/
theorem bufferedAmount_le_of_step
    (h : pump.bufferedAmount ≤ config.bufferedAmountHighThreshold) {event : OutboundPumpEvent}
    (hwithin : SendsWithin config pump event)
    (hstep : pump.step kind config maxPayloadLen event = some pump') :
    pump'.bufferedAmount ≤ config.bufferedAmountHighThreshold := by
  cases event with
  | receive len =>
    rw [step] at hstep
    split_ifs at hstep
    obtain rfl := Option.some.inj hstep
    exact h
  | compare | resume =>
    rw [step] at hstep
    split at hstep
    · split_ifs at hstep <;> obtain rfl := Option.some.inj hstep <;> exact h
    · cases hstep
  | send =>
    rw [step] at hstep
    split at hstep
    · rename_i len hphase
      obtain rfl := Option.some.inj hstep
      exact hwithin len hphase
    · cases hstep
  | stop =>
    obtain rfl := Option.some.inj hstep
    exact h
  | drain n =>
    obtain rfl := Option.some.inj hstep
    exact (Nat.sub_le _ _).trans h

/-! ## Frames that do not fit -/

/-- The pump sends `count` frames of the same length. -/
def sendAll (len count : ℕ) : List OutboundPumpEvent :=
  (List.replicate count [.receive len, .compare, .send]).flatten

/-- As long as they stay within the high threshold it sends them. -/
theorem run_sendAll (hvalid : config.validate = .ok ()) {len : ℕ} (hheader : headerLen < len)
    (hlen : len ≤ headerLen + maxPayloadLen) (hsmall : len < 2 ^ 32) {count : ℕ}
    (hcount : count * len ≤ config.bufferedAmountHighThreshold) :
    Runs.run (step kind config maxPayloadLen) new (sendAll len count) =
      some ⟨count * len, .receiving⟩ := by
  obtain ⟨-, hu32⟩ := WebRtcDataChannelConfig.validate_eq_ok.mp hvalid
  induction count with
  | zero =>
    rw [Nat.zero_mul]
    rfl
  | succ count ih =>
    have hsucc : (count + 1) * len = count * len + len := Nat.succ_mul count len
    have hcomposed : sendAll len (count + 1) =
        sendAll len count ++ [.receive len, .compare, .send] := by
      rw [sendAll, List.replicate_succ', List.flatten_append, List.flatten_singleton, sendAll]
    have hreceive : step kind config maxPayloadLen ⟨count * len, .receiving⟩ (.receive len) =
        some ⟨count * len, .holding len⟩ := if_pos ⟨rfl, hheader, hlen⟩
    have hcompare : step kind config maxPayloadLen ⟨count * len, .holding len⟩ .compare =
        some ⟨count * len, .sending len⟩ := by
      simp only [step, kind.threshold_of_le hu32, kind.frameLen_of_lt hsmall,
        PumpKind.saturatingAdd]
      exact if_neg (by omega)
    have hsend : step kind config maxPayloadLen ⟨count * len, .sending len⟩ .send =
        some ⟨(count + 1) * len, .receiving⟩ := by
      rw [hsucc]
      rfl
    rw [hcomposed]
    exact Runs.run_append.mpr ⟨_, ih (by omega), Runs.run_cons.mpr ⟨_, hreceive,
      Runs.run_cons.mpr ⟨_, hcompare, Runs.run_cons.mpr ⟨_, hsend, rfl⟩⟩⟩⟩

/-- A pump whose largest frame does not fit gets to send one above the high threshold. -/
theorem exists_send_above (hvalid : config.validate = .ok ()) (hpos : 0 < maxPayloadLen)
    (hmax : maxPayloadLen ≤ 65535)
    (habove : config.bufferedAmountHighThreshold <
        config.bufferedAmountLowThreshold + (headerLen + maxPayloadLen) ∨
      kind.maxAmount ≤ config.bufferedAmountHighThreshold) :
    ∃ events amount, Runs.run (step kind config maxPayloadLen) new events =
        some ⟨amount, .sending (headerLen + maxPayloadLen)⟩ ∧
      config.bufferedAmountHighThreshold < amount + (headerLen + maxPayloadLen) := by
  obtain ⟨hlow, hu32⟩ := WebRtcDataChannelConfig.validate_eq_ok.mp hvalid
  generalize hL : headerLen + maxPayloadLen = len at habove ⊢
  generalize hhigh : config.bufferedAmountHighThreshold = high at *
  generalize hlo : config.bufferedAmountLowThreshold = low at *
  have hheader : headerLen < len := by omega
  have hsmall : len < 2 ^ 32 := by
    rw [headerLen] at hL
    omega
  -- as many frames as the high threshold has room for
  have hroom : high / len * len ≤ high := Nat.div_mul_le_self high len
  have hfull : high < high / len * len + len := Nat.lt_div_mul_add (by omega)
  have hfill : Runs.run (step kind config maxPayloadLen) new (sendAll len (high / len)) =
      some ⟨high / len * len, .receiving⟩ :=
    run_sendAll hvalid hheader hL.ge hsmall (by rw [hhigh]; exact hroom)
  generalize high / len * len = amount at hroom hfull hfill
  have hreceive : step kind config maxPayloadLen ⟨amount, .receiving⟩ (.receive len) =
      some ⟨amount, .holding len⟩ := if_pos ⟨rfl, hheader, hL.ge⟩
  by_cases hcapped : kind.maxAmount ≤ high
  · -- the sum saturates at the high threshold at most
    have hcompare : step kind config maxPayloadLen ⟨amount, .holding len⟩ .compare =
        some ⟨amount, .sending len⟩ := by
      simp only [step, hhigh, kind.threshold_of_le hu32, kind.frameLen_of_lt hsmall,
        PumpKind.saturatingAdd]
      exact if_neg (by omega)
    exact ⟨_, amount, Runs.run_append.mpr ⟨_, hfill, Runs.run_cons.mpr ⟨_, hreceive,
      Runs.run_cons.mpr ⟨_, hcompare, Runs.run_nil _⟩⟩⟩, hfull⟩
  · -- it waits, the amount falls to the low threshold, and it goes on
    have habove : high < low + len := habove.resolve_right hcapped
    have hcompare : step kind config maxPayloadLen ⟨amount, .holding len⟩ .compare =
        some ⟨amount, .waiting len⟩ := by
      simp only [step, hhigh, kind.threshold_of_le hu32, kind.frameLen_of_lt hsmall,
        PumpKind.saturatingAdd]
      exact if_pos (by omega)
    have hdrain : step kind config maxPayloadLen ⟨amount, .waiting len⟩ (.drain (amount - low)) =
        some ⟨amount - (amount - low), .waiting len⟩ := rfl
    have hresume : step kind config maxPayloadLen ⟨amount - (amount - low), .waiting len⟩ .resume =
        some ⟨amount - (amount - low), .sending len⟩ := by
      simp only [step, hlo, kind.threshold_of_le (hlow.le.trans hu32)]
      exact if_pos (by omega)
    exact ⟨_, amount - (amount - low), Runs.run_append.mpr ⟨_, hfill, Runs.run_cons.mpr
      ⟨_, hreceive, Runs.run_cons.mpr ⟨_, hcompare, Runs.run_cons.mpr ⟨_, hdrain,
        Runs.run_cons.mpr ⟨_, hresume, Runs.run_nil _⟩⟩⟩⟩⟩, by omega⟩

/-- **The high threshold.**  For every valid configuration of a session and of the frames, and for
both pumps: no run ever sends a frame above the high threshold, if and only if the largest frame
fits between the two thresholds and the high threshold is not the largest integer of the pump. -/
theorem withinThreshold_iff {session : WebRtcSessionConfig} (hvalid : session.validate = .ok ())
    {frame : WebRtcFrameConfig} (hframe : frame.validate = .ok ()) (kind : PumpKind) :
    (∀ events, Runs.Guarded (step kind session.dataChannel frame.maxPayloadLen)
        (SendsWithin session.dataChannel) new events) ↔
      session.dataChannel.bufferedAmountLowThreshold + (headerLen + frame.maxPayloadLen) ≤
          session.dataChannel.bufferedAmountHighThreshold ∧
        session.dataChannel.bufferedAmountHighThreshold < kind.maxAmount := by
  obtain ⟨-, -, hchannel, -⟩ := WebRtcSessionConfig.validate_eq_ok.mp hvalid
  obtain ⟨hpos, hmax⟩ := WebRtcFrameConfig.validate_eq_ok.mp hframe
  constructor
  · intro hwithin
    by_contra hnot
    have habove : session.dataChannel.bufferedAmountHighThreshold <
          session.dataChannel.bufferedAmountLowThreshold + (headerLen + frame.maxPayloadLen) ∨
        kind.maxAmount ≤ session.dataChannel.bufferedAmountHighThreshold := by omega
    obtain ⟨events, amount, hrun, hsent⟩ := exists_send_above hchannel hpos hmax habove
    have hlast := Runs.guarded_iff_forall_split.mp (hwithin (events ++ [.send])) events .send [] _
      rfl hrun
    exact absurd (hlast _ rfl) (not_le.mpr hsent)
  · rintro ⟨hfits, hhigh⟩ events
    exact guarded_of_fits hchannel hmax hfits hhigh events

section Sample

/-- Thresholds between which no frame fits. -/
def sampleTight : WebRtcSessionConfig :=
  { WebRtcSessionConfig.default with dataChannel := ⟨40, 50⟩ }

theorem withinThreshold_iff_sample :
    (∀ events, Runs.Guarded (step .browser sampleTight.dataChannel 1)
        (SendsWithin sampleTight.dataChannel) new events) ↔
      sampleTight.dataChannel.bufferedAmountLowThreshold + (headerLen + 1) ≤
          sampleTight.dataChannel.bufferedAmountHighThreshold ∧
        sampleTight.dataChannel.bufferedAmountHighThreshold < PumpKind.maxAmount .browser := by
  have hframe : WebRtcFrameConfig.validate ⟨1⟩ = .ok () := by decide
  exact withinThreshold_iff (by decide) hframe .browser

/-- Two frames with one byte of payload each. -/
def sampleFrames : List OutboundPumpEvent :=
  [.receive 31, .compare, .send, .receive 31, .compare, .resume]

/-- **A frame above the threshold.**  The configuration is valid, with thresholds of 40 and 50
bytes.  Both pumps send the first of two frames, compare the second, find that it would go above the
high threshold and the amount below the low one, and send it: 62 bytes. -/
theorem sends_above_threshold :
    sampleTight.validate = .ok () ∧
      Runs.run (step (.native .w64) sampleTight.dataChannel 1) new sampleFrames =
        some ⟨31, .sending 31⟩ ∧
      ¬ Runs.Guarded (step (.native .w64) sampleTight.dataChannel 1)
        (SendsWithin sampleTight.dataChannel) new (sampleFrames ++ [.send]) ∧
      Runs.run (step .browser sampleTight.dataChannel 1) new sampleFrames =
        some ⟨31, .sending 31⟩ ∧
      ¬ Runs.Guarded (step .browser sampleTight.dataChannel 1)
        (SendsWithin sampleTight.dataChannel) new (sampleFrames ++ [.send]) := by
  have hsend : ∀ kind, Runs.run (step kind sampleTight.dataChannel 1) new sampleFrames =
      some ⟨31, .sending 31⟩ → ¬ Runs.Guarded (step kind sampleTight.dataChannel 1)
        (SendsWithin sampleTight.dataChannel) new (sampleFrames ++ [.send]) := by
    intro kind hrun hguard
    have hlast := Runs.guarded_iff_forall_split.mp hguard sampleFrames .send [] _ rfl hrun
    exact absurd (hlast 31 rfl) (by decide)
  have hnative : Runs.run (step (.native .w64) sampleTight.dataChannel 1) new sampleFrames =
      some ⟨31, .sending 31⟩ := by decide
  have hbrowser : Runs.run (step .browser sampleTight.dataChannel 1) new sampleFrames =
      some ⟨31, .sending 31⟩ := by decide
  exact ⟨by decide, hnative, hsend _ hnative, hbrowser, hsend _ hbrowser⟩

end Sample

end OutboundPump

end IrohWebRtc
