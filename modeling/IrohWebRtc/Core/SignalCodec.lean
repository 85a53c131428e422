import IrohWebRtc.Core.Signaling
import IrohWebRtc.Lib.Json

/-!
# Signals as JSON

The `Serialize` and `Deserialize` that serde derives for `WebRtcSignal`: an object with the tag
`type` and the fields of the variant.  An empty ALPN and an absent message are skipped by the one
and supplied by the other; an absent `sdp_mid` or `sdp_mline_index` is `null`.

The encoder is a function to JSON values and the decoder one from them, so that the text between
the two is a matter of `Lib.Json` alone.  A decoder looks a field up by its name and takes the
fields in any order; a field that comes twice is an error, and one that is not known is passed
over.

An endpoint id is written as a text from which it can be read back (`EndpointText`).  What serde
reads besides the forms it writes, arrays in the place of objects and variants by their numbers,
is left out.

* `WebRtcSignal.ofJson_toJson`: decoding undoes encoding.
* `WebRtcSignal.plain_toJson`: the encoding of a signal is a value that readers are made for.
-/

namespace IrohWebRtc

open Bytes

/-- How an endpoint id is written in a human-readable format. -/
class EndpointText (E : Type*) where
  toText : E → String
  ofText : String → Option E
  ofText_toText : ∀ e, ofText (toText e) = some e

/-! ## Fields of objects -/

namespace JsonField

/-- The field `name` of an object, when it has one.  The outer `none` is the error of a field that
occurs twice. -/
def lookup (fields : List (String × Json)) (name : String) : Option (Option Json) :=
  match fields.filter fun field => field.1 = name with
  | [] => some none
  | [(_, v)] => some (some v)
  | _ => none

/-- A field that must be there. -/
def required {α : Type*} (fields : List (String × Json)) (name : String)
    (decode : Json → Option α) : Option α :=
  (lookup fields name).bind fun v => v.bind decode

/-- A field with `#[serde(default)]`. -/
def defaulted {α : Type*} (fields : List (String × Json)) (name : String) (dflt : α)
    (decode : Json → Option α) : Option α :=
  (lookup fields name).bind fun v => v.elim (some dflt) decode

/-- A field of type `Option`. -/
def optional {α : Type*} (fields : List (String × Json)) (name : String)
    (decode : Json → Option α) : Option (Option α) :=
  (lookup fields name).bind fun v =>
    match v with
    | none | some .null => some none
    | some v => (decode v).map some

def text : Json → Option String
  | .str s => some s
  | _ => none

/-- An unsigned integer below `bound`. -/
def number (bound : ℕ) : Json → Option ℕ
  | .num n => if n < bound then some n else none
  | _ => none

/-- The name of a variant without fields. -/
def variant : Json → Option String
  | .str name => some name
  | .obj [(name, .null)] => some name
  | _ => none

end JsonField

/-! ## The types of the fields -/

/-- An array of sixteen numbers. -/
def DialId.toJson (dialId : DialId) : Json := .arr (dialId.toList.map fun b => .num b.toNat)

def DialId.ofJson : Json → Option DialId
  | .arr items =>
    (items.mapM fun v => (JsonField.number 256 v).map UInt8.ofNat).bind (FixedBytes.ofList? 16)
  | _ => none

namespace BootstrapTransportIntent

def name : BootstrapTransportIntent → String
  | irohRelay => "irohRelay"
  | webRtcPreferred => "webrtcPreferred"
  | webRtcOnly => "webrtcOnly"

def ofName (name : String) : Option BootstrapTransportIntent :=
  if name = "irohRelay" then some irohRelay
  else if name = "webrtcPreferred" then some webRtcPreferred
  else if name = "webrtcOnly" then some webRtcOnly
  else none

def ofJson (v : Json) : Option BootstrapTransportIntent := (JsonField.variant v).bind ofName

end BootstrapTransportIntent

namespace WebRtcTerminalReason

def name : WebRtcTerminalReason → String
  | webRtcFailed => "webrtcFailed"
  | fallbackSelected => "fallbackSelected"
  | cancelled => "cancelled"
  | closed => "closed"

def ofName (name : String) : Option WebRtcTerminalReason :=
  if name = "webrtcFailed" then some webRtcFailed
  else if name = "fallbackSelected" then some fallbackSelected
  else if name = "cancelled" then some cancelled
  else if name = "closed" then some closed
  else none

def ofJson (v : Json) : Option WebRtcTerminalReason := (JsonField.variant v).bind ofName

end WebRtcTerminalReason

/-! ## Signals -/

namespace WebRtcSignal

variable {E : Type*}

/-- The value of the field `type`. -/
def tag : WebRtcSignal E → String
  | dialRequest .. => "session"
  | offer .. => "offer"
  | answer .. => "answer"
  | iceCandidate .. => "iceCandidate"
  | endOfCandidates .. => "endOfCandidates"
  | terminal .. => "terminal"

/-- The fields that a variant has beside those of all variants. -/
def ownFields : WebRtcSignal E → List (String × Json)
  | dialRequest _ _ _ _ alpn transportIntent =>
    (if alpn = "" then [] else [("alpn", .str alpn)]) ++
      [("transportIntent", .str transportIntent.name)]
  | offer _ _ _ _ sdp | answer _ _ _ _ sdp => [("sdp", .str sdp)]
  | iceCandidate _ _ _ _ candidate sdpMid sdpMlineIndex =>
    [("candidate", .str candidate), ("sdp_mid", sdpMid.elim .null .str),
      ("sdp_mline_index", sdpMlineIndex.elim .null fun index => .num index.toNat)]
  | endOfCandidates .. => []
  | terminal _ _ _ _ reason message =>
    ("reason", .str reason.name) :: message.toList.map fun m => ("message", .str m)

variable [EndpointText E]

/-- The tag and the fields of all variants. -/
def commonFields (signal : WebRtcSignal E) : List (String × Json) :=
  [("type", .str signal.tag), ("dial_id", signal.dialId.toJson),
    ("from", .str (EndpointText.toText signal.fromId)),
    ("to", .str (EndpointText.toText signal.toId)), ("generation", .num signal.generation)]

/-- `Serialize`. -/
def toJson (signal : WebRtcSignal E) : Json := .obj (signal.commonFields ++ signal.ownFields)

/-- An endpoint id in a field. -/
def endpoint (v : Json) : Option E := (JsonField.text v).bind EndpointText.ofText

/-- The variant with the tag `tag`, from the fields that all variants have and its own. -/
def ofFields (fields : List (String × Json)) (tag : String) (dialId : DialId) (fromId toId : E)
    (generation : ℕ) : Option (WebRtcSignal E) :=
  if tag = "session" then
    (JsonField.defaulted fields "alpn" "" JsonField.text).bind fun alpn =>
      (JsonField.required fields "transportIntent" BootstrapTransportIntent.ofJson).map
        fun transportIntent => dialRequest dialId fromId toId generation alpn transportIntent
  else if tag = "offer" then
    (JsonField.required fields "sdp" JsonField.text).map fun sdp =>
      offer dialId fromId toId generation sdp
  else if tag = "answer" then
    (JsonField.required fields "sdp" JsonField.text).map fun sdp =>
      answer dialId fromId toId generation sdp
  else if tag = "iceCandidate" then
    (JsonField.required fields "candidate" JsonField.text).bind fun candidate =>
      (JsonField.optional fields "sdp_mid" JsonField.text).bind fun sdpMid =>
        (JsonField.optional fields "sdp_mline_index" (JsonField.number (2 ^ 16))).map
          fun sdpMlineIndex =>
            iceCandidate dialId fromId toId generation candidate sdpMid
              (sdpMlineIndex.map UInt16.ofNat)
  else if tag = "endOfCandidates" then some (endOfCandidates dialId fromId toId generation)
  else if tag = "terminal" then
    (JsonField.required fields "reason" WebRtcTerminalReason.ofJson).bind fun reason =>
      (JsonField.optional fields "message" JsonField.text).map fun message =>
        terminal dialId fromId toId generation reason message
  else none

/-- `Deserialize`.  Fields that the variant does not know are ignored. -/
def ofJson : Json → Option (WebRtcSignal E)
  | .obj fields =>
    (JsonField.required fields "type" JsonField.text).bind fun tag =>
      (JsonField.required fields "dial_id" DialId.ofJson).bind fun dialId =>
        (JsonField.required fields "from" endpoint).bind fun fromId =>
          (JsonField.required fields "to" endpoint).bind fun toId =>
            (JsonField.required fields "generation" (JsonField.number (u64Max + 1))).bind
              fun generation => ofFields fields tag dialId fromId toId generation
  | _ => none

end WebRtcSignal

/-! ## Decoding undoes encoding -/

theorem DialId.ofJson_toJson (dialId : DialId) : DialId.ofJson dialId.toJson = some dialId := by
  have hbytes : ∀ bs : List UInt8,
      (bs.map fun b => Json.num b.toNat).mapM
        (fun v => (JsonField.number 256 v).map UInt8.ofNat) = some bs := by
    intro bs
    induction bs with
    | nil => rfl
    | cons b bs ih =>
      have hb : (JsonField.number 256 (.num b.toNat)).map UInt8.ofNat = some b := by
        rw [JsonField.number, if_pos b.toNat_lt, Option.map_some, UInt8.ofNat_toNat]
      rw [List.map_cons, List.mapM_cons, hb, ih]
      rfl
  rw [DialId.toJson, DialId.ofJson, hbytes, Option.bind_some]
  exact FixedBytes.ofList?_eq_some.mpr rfl

theorem BootstrapTransportIntent.ofJson_name (intent : BootstrapTransportIntent) :
    BootstrapTransportIntent.ofJson (.str intent.name) = some intent := by
  cases intent <;> rfl

theorem WebRtcTerminalReason.ofJson_name (reason : WebRtcTerminalReason) :
    WebRtcTerminalReason.ofJson (.str reason.name) = some reason := by
  cases reason <;> rfl

namespace WebRtcSignal

variable {E : Type*} [EndpointText E]

theorem endpoint_toText (e : E) : endpoint (.str (EndpointText.toText e)) = some e :=
  EndpointText.ofText_toText e

theorem generation_number {n : ℕ} (h : n ≤ u64Max) :
    JsonField.number (u64Max + 1) (.num n) = some n :=
  if_pos (Nat.lt_succ_of_le h)

theorem uint16_number (index : UInt16) :
    JsonField.number (2 ^ 16) (.num index.toNat) = some index.toNat :=
  if_pos index.toNat_lt

omit [EndpointText E] in
/-- The keys of the fields that a variant has beside those of all variants. -/
theorem key_of_mem_ownFields {signal : WebRtcSignal E} {field : String × Json}
    (h : field ∈ signal.ownFields) :
    field.1 ∈ ["alpn", "transportIntent", "sdp", "candidate", "sdp_mid", "sdp_mline_index",
      "reason", "message"] := by
  cases signal with
  | dialRequest _ _ _ _ alpn transportIntent =>
    rcases List.mem_append.mp h with h | h
    · split_ifs at h with halpn
      · exact absurd h List.not_mem_nil
      · simp [List.mem_singleton.mp h]
    · simp [List.mem_singleton.mp h]
  | offer => simp [List.mem_singleton.mp h]
  | answer => simp [List.mem_singleton.mp h]
  | iceCandidate =>
    simp only [ownFields, List.mem_cons, List.not_mem_nil, or_false] at h
    rcases h with rfl | rfl | rfl <;> simp
  | endOfCandidates => exact absurd h List.not_mem_nil
  | terminal =>
    rcases List.mem_cons.mp h with rfl | h
    · simp
    · obtain ⟨_, -, rfl⟩ := List.mem_map.mp h
      simp

/-- A field of all variants is found in front of the own fields. -/
theorem lookup_common {signal : WebRtcSignal E} {name : String}
    (h : name ∈ ["type", "dial_id", "from", "to", "generation"]) :
    JsonField.lookup (signal.commonFields ++ signal.ownFields) name =
      JsonField.lookup signal.commonFields name := by
  have hnone : signal.ownFields.filter (fun field => field.1 = name) = [] := by
    refine List.filter_eq_nil_iff.mpr fun field hfield => ?_
    have hkey := key_of_mem_ownFields hfield
    simp only [List.mem_cons, List.not_mem_nil, or_false] at h hkey
    rintro hname
    obtain rfl := of_decide_eq_true hname
    rcases h with h | h | h | h | h <;> simp [h] at hkey
  rw [JsonField.lookup, JsonField.lookup, List.filter_append, hnone, List.append_nil]

/-- An own field is found behind the fields of all variants. -/
theorem lookup_own {signal : WebRtcSignal E} {name : String}
    (h : name ∉ ["type", "dial_id", "from", "to", "generation"]) :
    JsonField.lookup (signal.commonFields ++ signal.ownFields) name =
      JsonField.lookup signal.ownFields name := by
  have hnone : signal.commonFields.filter (fun field => field.1 = name) = [] := by
    refine List.filter_eq_nil_iff.mpr fun field hfield hname => h ?_
    obtain rfl := of_decide_eq_true hname
    simp only [commonFields, List.mem_cons, List.not_mem_nil, or_false] at hfield
    rcases hfield with rfl | rfl | rfl | rfl | rfl <;> simp
  rw [JsonField.lookup, JsonField.lookup, List.filter_append, hnone, List.nil_append]

/-- What all variants have in common is decoded to what it was. -/
theorem ofJson_common {signal : WebRtcSignal E} (h : signal.generation ≤ u64Max) :
    ofJson signal.toJson =
      ofFields (signal.commonFields ++ signal.ownFields) signal.tag signal.dialId signal.fromId
        signal.toId signal.generation := by
  have htype : JsonField.required (signal.commonFields ++ signal.ownFields) "type"
      JsonField.text = some signal.tag := by
    rw [JsonField.required, lookup_common (by simp)]
    rfl
  have hdialId : JsonField.required (signal.commonFields ++ signal.ownFields) "dial_id"
      DialId.ofJson = some signal.dialId := by
    rw [JsonField.required, lookup_common (by simp)]
    exact DialId.ofJson_toJson signal.dialId
  have hfrom : JsonField.required (signal.commonFields ++ signal.ownFields) "from"
      endpoint = some signal.fromId := by
    rw [JsonField.required, lookup_common (by simp)]
    exact endpoint_toText signal.fromId
  have hto : JsonField.required (signal.commonFields ++ signal.ownFields) "to"
      endpoint = some signal.toId := by
    rw [JsonField.required, lookup_common (by simp)]
    exact endpoint_toText signal.toId
  have hgeneration : JsonField.required (signal.commonFields ++ signal.ownFields) "generation"
      (JsonField.number (u64Max + 1)) = some signal.generation := by
    rw [JsonField.required, lookup_common (by simp)]
    exact generation_number h
  simp only [toJson, ofJson, htype, hdialId, hfrom, hto, hgeneration, Option.bind_some]

/-- All fields of the encoding. -/
def allFields (signal : WebRtcSignal E) : List (String × Json) :=
  signal.commonFields ++ signal.ownFields

theorem required_own {α : Type*} {signal : WebRtcSignal E} {name : String}
    (h : name ∉ ["type", "dial_id", "from", "to", "generation"]) (decode : Json → Option α) :
    JsonField.required signal.allFields name decode =
      JsonField.required signal.ownFields name decode := by
  rw [JsonField.required, JsonField.required, allFields, lookup_own h]

theorem optional_own {α : Type*} {signal : WebRtcSignal E} {name : String}
    (h : name ∉ ["type", "dial_id", "from", "to", "generation"]) (decode : Json → Option α) :
    JsonField.optional signal.allFields name decode =
      JsonField.optional signal.ownFields name decode := by
  rw [JsonField.optional, JsonField.optional, allFields, lookup_own h]

theorem defaulted_own {α : Type*} {signal : WebRtcSignal E} {name : String}
    (h : name ∉ ["type", "dial_id", "from", "to", "generation"]) (dflt : α)
    (decode : Json → Option α) :
    JsonField.defaulted signal.allFields name dflt decode =
      JsonField.defaulted signal.ownFields name dflt decode := by
  rw [JsonField.defaulted, JsonField.defaulted, allFields, lookup_own h]

/-- **Decoding undoes encoding**, with an empty ALPN and an absent message too. -/
theorem ofJson_toJson {signal : WebRtcSignal E} (h : signal.generation ≤ u64Max) :
    ofJson signal.toJson = some signal := by
  rw [ofJson_common h, ← allFields]
  cases signal with
  | dialRequest dialId fromId toId generation alpn transportIntent =>
    show ofFields _ "session" dialId fromId toId generation = _
    have halpn : JsonField.defaulted (allFields (E := E)
        (.dialRequest dialId fromId toId generation alpn transportIntent)) "alpn" ""
          JsonField.text = some alpn := by
      rw [defaulted_own (by simp)]
      by_cases hempty : alpn = ""
      · simp [JsonField.defaulted, JsonField.lookup, ownFields, hempty]
      · simp [JsonField.defaulted, JsonField.lookup, ownFields, hempty, JsonField.text]
    have hintent : JsonField.required (allFields (E := E)
        (.dialRequest dialId fromId toId generation alpn transportIntent)) "transportIntent"
          BootstrapTransportIntent.ofJson = some transportIntent := by
      rw [required_own (by simp)]
      by_cases hempty : alpn = "" <;>
        simp [JsonField.required, JsonField.lookup, ownFields, hempty,
          BootstrapTransportIntent.ofJson_name]
    simp only [ofFields, if_true, halpn, hintent, Option.bind_some, Option.map_some]
  | offer dialId fromId toId generation sdp =>
    show ofFields _ "offer" dialId fromId toId generation = _
    have hsdp : JsonField.required (allFields (E := E) (.offer dialId fromId toId generation sdp))
        "sdp" JsonField.text = some sdp := by
      rw [required_own (by simp)]
      rfl
    simp only [ofFields, String.reduceEq, if_true, if_false, hsdp, Option.map_some]
  | answer dialId fromId toId generation sdp =>
    show ofFields _ "answer" dialId fromId toId generation = _
    have hsdp : JsonField.required (allFields (E := E) (.answer dialId fromId toId generation sdp))
        "sdp" JsonField.text = some sdp := by
      rw [required_own (by simp)]
      rfl
    simp only [ofFields, String.reduceEq, if_true, if_false, hsdp, Option.map_some]
  | iceCandidate dialId fromId toId generation candidate sdpMid sdpMlineIndex =>
    show ofFields _ "iceCandidate" dialId fromId toId generation = _
    have hcandidate : JsonField.required (allFields (E := E)
        (.iceCandidate dialId fromId toId generation candidate sdpMid sdpMlineIndex)) "candidate"
          JsonField.text = some candidate := by
      rw [required_own (by simp)]
      rfl
    have hsdpMid : JsonField.optional (allFields (E := E)
        (.iceCandidate dialId fromId toId generation candidate sdpMid sdpMlineIndex)) "sdp_mid"
          JsonField.text = some sdpMid := by
      rw [optional_own (by simp)]
      cases sdpMid <;> rfl
    have hindex : JsonField.optional (allFields (E := E)
        (.iceCandidate dialId fromId toId generation candidate sdpMid sdpMlineIndex))
          "sdp_mline_index" (JsonField.number (2 ^ 16)) = some (sdpMlineIndex.map UInt16.toNat) := by
      rw [optional_own (by simp)]
      cases sdpMlineIndex with
      | none => rfl
      | some index =>
        show (JsonField.number (2 ^ 16) (.num index.toNat)).map some = some (some index.toNat)
        rw [uint16_number, Option.map_some]
    have hsame : (sdpMlineIndex.map UInt16.toNat).map UInt16.ofNat = sdpMlineIndex := by
      cases sdpMlineIndex <;> simp
    simp only [ofFields, String.reduceEq, if_true, if_false, hcandidate, hsdpMid, hindex,
      Option.bind_some, Option.map_some, hsame]
  | endOfCandidates dialId fromId toId generation =>
    show ofFields _ "endOfCandidates" dialId fromId toId generation = _
    simp only [ofFields, String.reduceEq, if_true, if_false]
  | terminal dialId fromId toId generation reason message =>
    show ofFields _ "terminal" dialId fromId toId generation = _
    have hreason : JsonField.required (allFields (E := E)
        (.terminal dialId fromId toId generation reason message)) "reason"
          WebRtcTerminalReason.ofJson = some reason := by
      rw [required_own (by simp)]
      cases message <;>
        simp [JsonField.required, JsonField.lookup, ownFields, WebRtcTerminalReason.ofJson_name]
    have hmessage : JsonField.optional (allFields (E := E)
        (.terminal dialId fromId toId generation reason message)) "message"
          JsonField.text = some message := by
      rw [optional_own (by simp)]
      cases message <;> rfl
    simp only [ofFields, String.reduceEq, if_true, if_false, hreason, hmessage, Option.bind_some,
      Option.map_some]

/-- The encoding of a signal is a value that readers are made for. -/
theorem plain_toJson {signal : WebRtcSignal E} (h : signal.generation ≤ u64Max) :
    signal.toJson.Plain := by
  show ∀ field ∈ signal.commonFields ++ signal.ownFields, Json.PlainWithin 126 field.2
  have hstr : ∀ s, Json.PlainWithin 126 (.str s) := fun _ => trivial
  intro field hfield
  rcases List.mem_append.mp hfield with hfield | hfield
  · simp only [commonFields, List.mem_cons, List.not_mem_nil, or_false] at hfield
    rcases hfield with rfl | rfl | rfl | rfl | rfl
    · exact hstr _
    · show ∀ v ∈ signal.dialId.toList.map fun b => Json.num b.toNat, Json.PlainWithin 125 v
      intro v hv
      obtain ⟨b, -, rfl⟩ := List.mem_map.mp hv
      have hb := b.toNat_lt
      show b.toNat < 2 ^ 64
      omega
    · exact hstr _
    · exact hstr _
    · show signal.generation < 2 ^ 64
      exact Nat.lt_of_le_of_lt h (by decide)
  · cases signal with
    | dialRequest _ _ _ _ alpn transportIntent =>
      rcases List.mem_append.mp hfield with hfield | hfield
      · split_ifs at hfield
        · exact absurd hfield List.not_mem_nil
        · exact List.mem_singleton.mp hfield ▸ hstr _
      · exact List.mem_singleton.mp hfield ▸ hstr _
    | offer => exact List.mem_singleton.mp hfield ▸ hstr _
    | answer => exact List.mem_singleton.mp hfield ▸ hstr _
    | iceCandidate _ _ _ _ _ sdpMid sdpMlineIndex =>
      simp only [ownFields, List.mem_cons, List.not_mem_nil, or_false] at hfield
      rcases hfield with rfl | rfl | rfl
      · exact hstr _
      · cases sdpMid <;> trivial
      · cases sdpMlineIndex with
        | none => trivial
        | some index =>
          have hindex := index.toNat_lt
          show index.toNat < 2 ^ 64
          omega
    | endOfCandidates => exact absurd hfield List.not_mem_nil
    | terminal =>
      rcases List.mem_cons.mp hfield with rfl | hfield
      · exact hstr _
      · obtain ⟨_, -, rfl⟩ := List.mem_map.mp hfield
        exact hstr _

end WebRtcSignal

end IrohWebRtc
