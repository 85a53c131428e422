import IrohWebRtc.Core.Addr
import IrohWebRtc.Core.Frame

/-!
# Configuration of the transport

`config.rs`, the configuration half of `transport.rs`, and `facade/config.rs`.  Every part has its
own check, and the check of a bundle runs those of its parts in order and returns the first error.

A check is a sequence of comparisons, each with its own text, so the model keeps the order: of two
mistakes in one configuration the first is the one that is reported.  What a configuration that
passes satisfies is then stated once for each bundle, as a conjunction with nothing left over.
Later modules use only that, and never look into the checks.

* `WebRtcSessionConfig.validate_eq_ok`, `WebRtcNodeConfig.validate_eq_ok`: what a configuration
  that passes satisfies, and nothing more is checked.
* `WebRtcNodeConfig.validate_default`: the default configuration passes.

What the checks do not compare matters as much.  Nothing relates the frame limit of a transport to
that of its sessions (`Facade.FrameLimits`), and the distance between the two thresholds of a data
channel is not held against the largest frame (`Core.Backpressure`).
-/

namespace IrohWebRtc

/-- Default number of local ICE events buffered per session. -/
def defaultLocalIceQueueCapacity : ℕ := 128

/-- Default packet queue capacity for inbound and outbound packets. -/
def defaultSessionQueueCapacity : ℕ := 1024

/-- Default buffered amount that resumes a paused outbound pump. -/
def defaultDataChannelBufferedAmountLowThreshold : ℕ := 4 * 1024 * 1024

/-- Default buffered amount that pauses an outbound pump. -/
def defaultDataChannelBufferedAmountHighThreshold : ℕ := 16 * 1024 * 1024

/-- The text starts with the scheme. -/
def startsWithScheme (lower : List Char) (scheme : String) : Bool :=
  scheme.toList.isPrefixOf lower

/-- `validate_stun_url`. -/
def validateStunUrl (url : String) : Except Error String :=
  let lower := url.toList.map Char.toLower
  if !startsWithScheme lower "stun:" && !startsWithScheme lower "stuns:" then
    .error (.invalidIceConfig
      "direct-only WebRTC sessions only accept stun: or stuns: ICE server URLs")
  else if startsWithScheme lower "turn:" || startsWithScheme lower "turns:" then
    .error (.invalidIceConfig "TURN relays are disabled for direct-only WebRTC sessions")
  else .ok url

structure WebRtcIceConfig where
  stunUrls : List String
  deriving DecidableEq, Repr

namespace WebRtcIceConfig

def directOnly (stunUrls : List String) : Except Error WebRtcIceConfig := do
  let stunUrls ← stunUrls.mapM validateStunUrl
  return ⟨stunUrls⟩

/-- Leaves host candidates only. -/
def noIceServers : WebRtcIceConfig := ⟨[]⟩

def defaultDirectStun : WebRtcIceConfig := ⟨["stun:stun.l.google.com:19302"]⟩

def validateDirectOnly (config : WebRtcIceConfig) : Except Error Unit :=
  config.stunUrls.forM fun url => do let _ ← validateStunUrl url

end WebRtcIceConfig

/-- Packet frame sizing for the data channel carrier. -/
structure WebRtcFrameConfig where
  maxPayloadLen : ℕ
  deriving DecidableEq, Repr

namespace WebRtcFrameConfig

def validate (config : WebRtcFrameConfig) : Except Error Unit :=
  if config.maxPayloadLen = 0 ∨ 65535 < config.maxPayloadLen then
    .error (.invalidConfig "max payload length must be between 1 and u16::MAX")
  else .ok ()

def default : WebRtcFrameConfig := ⟨defaultMaxPayloadLen⟩

end WebRtcFrameConfig

/-- Outbound backpressure tuning. -/
structure WebRtcDataChannelConfig where
  bufferedAmountLowThreshold : ℕ
  bufferedAmountHighThreshold : ℕ
  deriving DecidableEq, Repr

namespace WebRtcDataChannelConfig

def validate (config : WebRtcDataChannelConfig) : Except Error Unit :=
  if u32Max < config.bufferedAmountLowThreshold ∨
      u32Max < config.bufferedAmountHighThreshold then
    .error (.invalidConfig "buffered amount thresholds must fit in u32")
  else if config.bufferedAmountHighThreshold ≤ config.bufferedAmountLowThreshold then
    .error (.invalidConfig "buffered amount low threshold must be lower than high threshold")
  else .ok ()

def default : WebRtcDataChannelConfig :=
  ⟨defaultDataChannelBufferedAmountLowThreshold, defaultDataChannelBufferedAmountHighThreshold⟩

end WebRtcDataChannelConfig

/-- Full per-peer session tuning. -/
structure WebRtcSessionConfig where
  ice : WebRtcIceConfig
  frame : WebRtcFrameConfig
  dataChannel : WebRtcDataChannelConfig
  localIceQueueCapacity : ℕ
  deriving DecidableEq, Repr

namespace WebRtcSessionConfig

def default : WebRtcSessionConfig :=
  ⟨.defaultDirectStun, .default, .default, defaultLocalIceQueueCapacity⟩

def directStun (stunUrls : List String) : Except Error WebRtcSessionConfig := do
  let ice ← WebRtcIceConfig.directOnly stunUrls
  return { default with ice := ice }

def noIceServers : WebRtcSessionConfig := { default with ice := .noIceServers }

def validate (config : WebRtcSessionConfig) : Except Error Unit := do
  config.ice.validateDirectOnly
  config.frame.validate
  config.dataChannel.validate
  if config.localIceQueueCapacity = 0 then
    .error (.invalidConfig "local ICE queue capacity must be greater than zero")
  else .ok ()

end WebRtcSessionConfig

/-- Queue capacities for the packet bridge. -/
structure WebRtcQueueConfig where
  recvCapacity : ℕ
  sendCapacity : ℕ
  deriving DecidableEq, Repr

namespace WebRtcQueueConfig

def validate (config : WebRtcQueueConfig) : Except Error Unit :=
  if config.recvCapacity = 0 ∨ config.sendCapacity = 0 then
    .error (.invalidConfig "WebRTC transport queue capacities must be greater than zero")
  else .ok ()

def default : WebRtcQueueConfig := ⟨defaultSessionQueueCapacity, defaultSessionQueueCapacity⟩

end WebRtcQueueConfig

/-- Configuration of the custom transport; `frame` is enforced by its senders. -/
structure WebRtcTransportConfig where
  localAddr : Option CustomAddr
  queues : WebRtcQueueConfig
  frame : WebRtcFrameConfig
  deriving DecidableEq

def WebRtcTransportConfig.default : WebRtcTransportConfig := ⟨none, .default, .default⟩

/-- Configuration of a node. -/
structure WebRtcNodeConfig where
  session : WebRtcSessionConfig
  transport : WebRtcTransportConfig
  deriving DecidableEq

namespace WebRtcNodeConfig

def validate (config : WebRtcNodeConfig) : Except Error Unit := do
  config.session.validate
  config.transport.queues.validate
  config.transport.frame.validate

def default : WebRtcNodeConfig := ⟨.default, .default⟩

end WebRtcNodeConfig

/-! ## What the checks accept -/

/-- A check followed by another passes when both do. -/
theorem bind_eq_ok_unit {check next : Except Error Unit} :
    (check >>= fun _ => next) = .ok () ↔ check = .ok () ∧ next = .ok () := by
  cases check with
  | error err => exact ⟨nofun, fun h => absurd h.1 nofun⟩
  | ok _ => exact ⟨fun h => ⟨rfl, h⟩, fun h => h.2⟩

/-- A loop of checks passes when every one does. -/
theorem forM_eq_ok {α : Type*} {check : α → Except Error Unit} {values : List α} :
    values.forM check = .ok () ↔ ∀ value ∈ values, check value = .ok () := by
  induction values with
  | nil => exact ⟨fun _ => nofun, fun _ => rfl⟩
  | cons value values ih =>
    show (check value >>= fun _ => values.forM check) = .ok () ↔ _
    rw [bind_eq_ok_unit, ih, List.forall_mem_cons]

theorem head_of_startsWithScheme {lower : List Char} {scheme : String}
    (hne : scheme.toList ≠ []) (h : startsWithScheme lower scheme = true) :
    lower.head? = scheme.toList.head? := by
  obtain ⟨rest, rfl⟩ := List.isPrefixOf_iff_prefix.mp h
  exact List.head?_append_of_ne_nil _ hne

/-- A URL of a STUN scheme. -/
def IsStunUrl (url : String) : Prop :=
  startsWithScheme (url.toList.map Char.toLower) "stun:" = true ∨
    startsWithScheme (url.toList.map Char.toLower) "stuns:" = true

/-- The second test of a URL never fails: a `stun:` URL is no `turn:` URL. -/
theorem validateStunUrl_eq_ok {url result : String} :
    validateStunUrl url = .ok result ↔ IsStunUrl url ∧ result = url := by
  rw [validateStunUrl, IsStunUrl]
  generalize url.toList.map Char.toLower = lower
  by_cases hstun : startsWithScheme lower "stun:" = true ∨ startsWithScheme lower "stuns:" = true
  · have hhead : lower.head? = some 's' := by
      rcases hstun with h | h
      · exact head_of_startsWithScheme (by decide) h
      · exact head_of_startsWithScheme (by decide) h
    have hturn : ∀ scheme : String, scheme.toList.head? = some 't' →
        startsWithScheme lower scheme = false := by
      intro scheme hscheme
      rw [Bool.eq_false_iff]
      intro h
      have hne : scheme.toList ≠ [] := fun hnil => by
        rw [hnil] at hscheme
        cases hscheme
      have hsame := head_of_startsWithScheme hne h
      rw [hhead, hscheme] at hsame
      exact absurd hsame (by decide)
    have hfirst :
        (!startsWithScheme lower "stun:" && !startsWithScheme lower "stuns:") = false := by
      rcases hstun with h | h <;> simp [h]
    rw [hfirst, hturn "turn:" rfl, hturn "turns:" rfl]
    constructor
    · intro h
      exact ⟨hstun, (Except.ok.inj h).symm⟩
    · rintro ⟨-, rfl⟩
      rfl
  · obtain ⟨hno, hnos⟩ := not_or.mp hstun
    rw [Bool.eq_false_iff.mpr hno, Bool.eq_false_iff.mpr hnos]
    exact ⟨nofun, fun h => absurd h.1 (by simp)⟩

theorem WebRtcIceConfig.validateDirectOnly_eq_ok {config : WebRtcIceConfig} :
    config.validateDirectOnly = .ok () ↔ ∀ url ∈ config.stunUrls, IsStunUrl url := by
  rw [validateDirectOnly, forM_eq_ok]
  refine forall₂_congr fun url _ => ?_
  cases hurl : validateStunUrl url with
  | error err =>
    refine iff_of_false nofun fun h => ?_
    rw [validateStunUrl_eq_ok.mpr ⟨h, rfl⟩] at hurl
    cases hurl
  | ok result => exact iff_of_true rfl (validateStunUrl_eq_ok.mp hurl).1

theorem mapM_validateStunUrl {stunUrls result : List String}
    (h : stunUrls.mapM validateStunUrl = .ok result) :
    result = stunUrls ∧ ∀ url ∈ stunUrls, IsStunUrl url := by
  induction stunUrls generalizing result with
  | nil => exact ⟨(Except.ok.inj h).symm, nofun⟩
  | cons url stunUrls ih =>
    rw [List.mapM_cons] at h
    cases hurl : validateStunUrl url with
    | error err =>
      rw [hurl] at h
      cases h
    | ok first =>
      rw [hurl] at h
      cases hrest : stunUrls.mapM validateStunUrl with
      | error err =>
        rw [hrest] at h
        cases h
      | ok rest =>
        rw [hrest] at h
        obtain ⟨hstun, rfl⟩ := validateStunUrl_eq_ok.mp hurl
        obtain ⟨rfl, hall⟩ := ih hrest
        exact ⟨(Except.ok.inj h).symm, List.forall_mem_cons.mpr ⟨hstun, hall⟩⟩

/-- What `direct_only` builds passes the check. -/
theorem WebRtcIceConfig.validateDirectOnly_of_directOnly {stunUrls : List String}
    {config : WebRtcIceConfig} (h : directOnly stunUrls = .ok config) :
    config.stunUrls = stunUrls ∧ config.validateDirectOnly = .ok () := by
  rw [validateDirectOnly_eq_ok]
  rw [directOnly] at h
  cases hurls : stunUrls.mapM validateStunUrl with
  | error err =>
    rw [hurls] at h
    cases h
  | ok result =>
    rw [hurls] at h
    obtain rfl := Except.ok.inj h
    obtain ⟨rfl, hall⟩ := mapM_validateStunUrl hurls
    exact ⟨rfl, hall⟩

theorem WebRtcFrameConfig.validate_eq_ok {config : WebRtcFrameConfig} :
    config.validate = .ok () ↔ 0 < config.maxPayloadLen ∧ config.maxPayloadLen ≤ 65535 := by
  rw [validate]
  split_ifs with h
  · exact iff_of_false nofun (by omega)
  · exact iff_of_true rfl (by omega)

theorem WebRtcDataChannelConfig.validate_eq_ok {config : WebRtcDataChannelConfig} :
    config.validate = .ok () ↔
      config.bufferedAmountLowThreshold < config.bufferedAmountHighThreshold ∧
        config.bufferedAmountHighThreshold ≤ u32Max := by
  rw [validate]
  split_ifs with hfit hlow
  · exact iff_of_false nofun (by omega)
  · exact iff_of_false nofun (by omega)
  · exact iff_of_true rfl (by omega)

theorem WebRtcQueueConfig.validate_eq_ok {config : WebRtcQueueConfig} :
    config.validate = .ok () ↔ 0 < config.recvCapacity ∧ 0 < config.sendCapacity := by
  rw [validate]
  split_ifs with h
  · exact iff_of_false nofun (by omega)
  · exact iff_of_true rfl (by omega)

theorem WebRtcSessionConfig.validate_eq_ok {config : WebRtcSessionConfig} :
    config.validate = .ok () ↔
      config.ice.validateDirectOnly = .ok () ∧ config.frame.validate = .ok () ∧
        config.dataChannel.validate = .ok () ∧ 0 < config.localIceQueueCapacity := by
  rw [validate, bind_eq_ok_unit, bind_eq_ok_unit, bind_eq_ok_unit]
  refine and_congr_right fun _ => and_congr_right fun _ => and_congr_right fun _ => ?_
  split_ifs with h
  · exact iff_of_false nofun (by omega)
  · exact iff_of_true rfl (by omega)

/-- A session with STUN servers of one's own passes when its URLs do. -/
theorem WebRtcSessionConfig.validate_of_directStun {stunUrls : List String}
    {config : WebRtcSessionConfig} (h : directStun stunUrls = .ok config) :
    config.validate = .ok () := by
  rw [directStun] at h
  cases hice : WebRtcIceConfig.directOnly stunUrls with
  | error err =>
    rw [hice] at h
    cases h
  | ok ice =>
    rw [hice] at h
    obtain rfl := Except.ok.inj h
    have hdefault : default.validate = .ok () := by decide
    exact validate_eq_ok.mpr ⟨(WebRtcIceConfig.validateDirectOnly_of_directOnly hice).2,
      (validate_eq_ok.mp hdefault).2⟩

theorem WebRtcNodeConfig.validate_eq_ok {config : WebRtcNodeConfig} :
    config.validate = .ok () ↔
      config.session.validate = .ok () ∧ config.transport.queues.validate = .ok () ∧
        config.transport.frame.validate = .ok () := by
  rw [validate, bind_eq_ok_unit, bind_eq_ok_unit]

/-- The default configuration passes, with STUN and without. -/
theorem WebRtcNodeConfig.validate_default :
    default.validate = .ok () ∧
      WebRtcNodeConfig.validate { default with session := .noIceServers } = .ok () :=
  ⟨by decide, by decide⟩

end IrohWebRtc
