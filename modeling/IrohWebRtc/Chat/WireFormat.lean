import IrohWebRtc.Chat.EndToEnd

/-!
# The format of chat messages

How `serde` reads a `ChatWireMessage` of `protocol.rs`, and the stability contract of the type:
new fields and new variants may be added, and peers that do not know them go on.

The variants are tagged by the field `type`.  All other fields have a default.  A message may also
be an array, with the tag in front of the fields in their order.

A reader looks each field up by its name and takes the default where it is missing.  This is why
the order of the fields does not matter, and why a field that is not known is passed over; a field
that comes twice is an error.  A tag that is not known is read as `Unknown`, which every receiver
ignores.

* `ofJson_toJson`: a message is read as it was written.
* `ofJson_of_perm`: also with its fields in any order, and with fields that no peer knows yet.
* `variant_of_shorter`: a message without some of its fields is read as one of the same variant.
* `receive_of_unknown`: a message of a variant that is not known is read, and changes nothing.

## Limits

The contract is about frames that fit the wire, of at most `maxWireBytes`; a message that grows
beyond is dropped, whatever is in it.  The values in new fields are those of `Lib.Json`: `null`,
booleans, texts, naturals of at most 64 bits, and arrays and objects of these to a bounded depth.
What becomes of a new field with a negative or a fractional number, which `serde_json` reads as
well, is not covered.
-/

namespace IrohWebRtc

open Bytes Utf8

/-! ## Reading -/

/-- `serde_nonce`. -/
def nonceOfJson (v : Json) : Option (FixedBytes 16) :=
  (JsonField.text v).bind fun s =>
    (Base64.decodePadded Base64.standard s.toList).bind (FixedBytes.ofList? 16)

def sigOfJson : Json → Option (List UInt8) :=
  JsonField.list fun v => (JsonField.number 256 v).map UInt8.ofNat

namespace ChatWireMessage

/-- The fields of `AboutMe` by their positions, each with its default. -/
def aboutMeOfItems (item : ℕ → Option Json) : Option ChatWireMessage :=
  ((item 0).elim (some "") JsonField.text).bind fun signer =>
    ((item 1).elim (some "") JsonField.text).bind fun name =>
      ((item 2).elim (some (.replicate 16 0)) nonceOfJson).bind fun nonce =>
        ((item 3).elim (some []) sigOfJson).map fun sig => aboutMe signer name nonce sig

def chatOfItems (item : ℕ → Option Json) : Option ChatWireMessage :=
  ((item 0).elim (some "") JsonField.text).bind fun signer =>
    ((item 1).elim (some "") JsonField.text).bind fun fromName =>
      ((item 2).elim (some "") JsonField.text).bind fun text =>
        ((item 3).elim (some (.replicate 16 0)) nonceOfJson).bind fun nonce =>
          ((item 4).elim (some []) sigOfJson).map fun sig => chat signer fromName text nonce sig

def leaveOfItems (item : ℕ → Option Json) : Option ChatWireMessage :=
  ((item 0).elim (some "") JsonField.text).bind fun signer =>
    ((item 1).elim (some (.replicate 16 0)) nonceOfJson).bind fun nonce =>
      ((item 2).elim (some []) sigOfJson).map fun sig => leave signer nonce sig

/-- The variant with the tag `tag`.  `Unknown` stands for all tags that are not known. -/
def ofTag (tag : String) : Json → Option ChatWireMessage :=
  if tag = "aboutMe" then JsonField.struct ["signer", "name", "nonce", "sig"] aboutMeOfItems
  else if tag = "chat" then
    JsonField.struct ["signer", "from_name", "text", "nonce", "sig"] chatOfItems
  else if tag = "leave" then JsonField.struct ["signer", "nonce", "sig"] leaveOfItems
  else if tag = "sync" then JsonField.struct [] fun _ => some sync
  else JsonField.struct [] fun _ => some unknown

/-- `Deserialize`: an object with the tag in its field `type`, or an array with the tag first. -/
def ofJson : Json → Option ChatWireMessage
  | .obj fields =>
    (JsonField.required fields "type" JsonField.text).bind fun tag => ofTag tag (.obj fields)
  | .arr (tag :: items) => (JsonField.text tag).bind fun tag => ofTag tag (.arr items)
  | _ => none

end ChatWireMessage

/-! ## Reading undoes writing -/

theorem nonceOfJson_nonceJson (nonce : FixedBytes 16) :
    nonceOfJson (nonceJson nonce) = some nonce := by
  have hdecode := Base64.decodePadded_pad_encode (by decide) Base64.value_symbol_standard
    (by decide) nonce.toList
  rw [nonceOfJson, nonceJson, JsonField.text, Option.bind_some, String.toList_ofList, hdecode]
  exact FixedBytes.ofList?_toList nonce

theorem sigOfJson_sigJson (sig : List UInt8) : sigOfJson (sigJson sig) = some sig := by
  refine JsonField.list_map (fun b => ?_) sig
  rw [JsonField.number, if_pos b.toNat_lt, Option.map_some, UInt8.ofNat_toNat]

namespace JsonField

variable {fields fields' : List (String × Json)}

/-- A field is found by the fields of its name alone, in any order. -/
theorem lookup_of_perm {name : String}
    (h : (fields.filter fun field => field.1 = name).Perm
      (fields'.filter fun field => field.1 = name)) : lookup fields name = lookup fields' name := by
  rw [lookup, lookup]
  generalize fields.filter _ = l at h
  generalize fields'.filter _ = l' at h
  rcases l with _ | ⟨x, _ | ⟨y, l⟩⟩
  · rw [List.nil_perm.mp h]
  · rw [List.singleton_perm.mp h]
  · have hlength := h.length_eq
    rcases l' with _ | ⟨x', _ | ⟨y', l'⟩⟩
    · cases hlength
    · cases hlength
    · rfl

/-- The fields that are not asked for do not matter, nor does the order of the others. -/
theorem lookup_of_filter {names : List String} {name : String} (hname : name ∈ names)
    (h : (fields'.filter fun field => field.1 ∈ names).Perm fields) :
    lookup fields' name = lookup fields name := by
  refine lookup_of_perm ?_
  have hfilter : (fields'.filter fun field => field.1 = name) =
      (fields'.filter fun field => field.1 ∈ names).filter fun field => field.1 = name := by
    rw [List.filter_filter]
    refine List.filter_congr fun field _ => ?_
    by_cases hfield : field.1 = name
    · simp [hfield, hname]
    · simp [hfield]
  rw [hfilter]
  exact h.filter _

/-- A field of a shorter object is the one it was, or is missing. -/
theorem lookup_of_sublist {name : String} {v : Json}
    (hfilter : fields.filter (fun field => field.1 = name) = [(name, v)])
    (h : fields'.Sublist fields) :
    lookup fields' name = some none ∨ lookup fields' name = some (some v) := by
  have hsub : (fields'.filter fun field => field.1 = name).Sublist [(name, v)] :=
    hfilter ▸ h.filter _
  rw [lookup]
  rcases List.sublist_singleton.mp hsub with hnil | hsome
  · rw [hnil]
    exact Or.inl rfl
  · rw [hsome]
    exact Or.inr rfl

/-- A derived `Deserialize` sees only the fields it asks for. -/
theorem struct_congr {α : Type*} {names : List String} {ofItems : (ℕ → Option Json) → Option α}
    (h : ∀ name ∈ names, lookup fields' name = lookup fields name) :
    struct names ofItems (.obj fields') = struct names ofItems (.obj fields) := by
  have hfound : names.mapM (lookup fields') = names.mapM (lookup fields) := by
    induction names with
    | nil => rfl
    | cons name names ih =>
      rw [List.mapM_cons, List.mapM_cons, h name List.mem_cons_self,
        ih fun name' hname => h name' (List.mem_cons_of_mem name hname)]
  rw [struct, struct, hfound]

/-- A field that may be missing is read, if it is read where it is there. -/
theorem exists_elim_of_sublist {α : Type*} {decode : Json → Option α} {v : Json} {a : α}
    (hdecode : decode v = some a) (dflt : α) (name : String)
    (hfilter : fields.filter (fun field => field.1 = name) = [(name, v)])
    (h : fields'.Sublist fields) :
    ∃ item a', lookup fields' name = some item ∧ item.elim (some dflt) decode = some a' := by
  rcases lookup_of_sublist hfilter h with hnone | hsome
  · exact ⟨none, dflt, hnone, rfl⟩
  · exact ⟨some v, a, hsome, hdecode⟩

end JsonField

theorem textOf_str (s : String) : JsonField.text (.str s) = some s := rfl

namespace ChatWireMessage

/-- The tag of a variant. -/
def tag : ChatWireMessage → String
  | aboutMe .. => "aboutMe"
  | chat .. => "chat"
  | leave .. => "leave"
  | sync => "sync"
  | unknown => "unknown"

/-- All names of fields. -/
def fieldNames : List String := ["type", "signer", "name", "from_name", "text", "nonce", "sig"]

variable {fields fields' : List (String × Json)} {m : ChatWireMessage}

/-- The fields of a message have different names, and the tag among them. -/
theorem type_of_toJson (hm : m.toJson = .obj fields) :
    fields.filter (fun field => field.1 = "type") = [("type", .str m.tag)] := by
  cases m <;> obtain rfl := Json.obj.inj hm <;> rfl

/-- **A message is read as it was written.** -/
theorem ofJson_toJson (m : ChatWireMessage) : ofJson m.toJson = some m := by
  cases m with
  | aboutMe signer name nonce sig =>
    show aboutMeOfItems (fun n => [some (Json.str signer), some (.str name),
      some (nonceJson nonce), some (sigJson sig)][n]?.join) = _
    simp [aboutMeOfItems, JsonField.text, nonceOfJson_nonceJson, sigOfJson_sigJson]
  | chat signer fromName text nonce sig =>
    show chatOfItems (fun n => [some (Json.str signer), some (.str fromName), some (.str text),
      some (nonceJson nonce), some (sigJson sig)][n]?.join) = _
    simp [chatOfItems, JsonField.text, nonceOfJson_nonceJson, sigOfJson_sigJson]
  | leave signer nonce sig =>
    show leaveOfItems (fun n => [some (Json.str signer), some (nonceJson nonce),
      some (sigJson sig)][n]?.join) = _
    simp [leaveOfItems, JsonField.text, nonceOfJson_nonceJson, sigOfJson_sigJson]
  | sync => rfl
  | unknown => rfl

/-- A message is determined by the fields that have names of its type. -/
theorem ofJson_congr
    (h : ∀ name ∈ fieldNames, JsonField.lookup fields' name = JsonField.lookup fields name) :
    ofJson (.obj fields') = ofJson (.obj fields) := by
  have htype := h "type" (by decide)
  rw [ofJson, ofJson, JsonField.required, JsonField.required, htype]
  refine congrArg _ (funext fun tag => ?_)
  have hstruct : ∀ {names : List String} {ofItems : (ℕ → Option Json) → Option ChatWireMessage},
      names ⊆ fieldNames → JsonField.struct names ofItems (.obj fields') =
        JsonField.struct names ofItems (.obj fields) :=
    fun hnames => JsonField.struct_congr fun name hname => h name (hnames hname)
  rw [ofTag]
  split_ifs
  · exact hstruct (by decide)
  · exact hstruct (by decide)
  · exact hstruct (by decide)
  · exact hstruct (by decide)
  · exact hstruct (by decide)

/-- **New fields are ignored**, and the order of the fields does not matter. -/
theorem ofJson_of_perm (hm : m.toJson = .obj fields)
    (h : (fields'.filter fun field => field.1 ∈ fieldNames).Perm fields) :
    ofJson (.obj fields') = some m := by
  rw [ofJson_congr fun name hname => JsonField.lookup_of_filter hname h, ← hm, ofJson_toJson]

/-- The tag is still there when some of the other fields were taken away. -/
theorem lookup_type (hm : m.toJson = .obj fields) (h : fields'.Sublist fields)
    (htype : "type" ∈ fields'.map Prod.fst) :
    JsonField.lookup fields' "type" = some (some (.str m.tag)) := by
  rcases JsonField.lookup_of_sublist (type_of_toJson hm) h with hitem | hitem
  · obtain ⟨field, hfield, hname⟩ := List.mem_map.mp htype
    have hmem : field ∈ fields'.filter fun field => field.1 = "type" :=
      List.mem_filter.mpr ⟨hfield, decide_eq_true hname⟩
    rw [JsonField.lookup] at hitem
    split at hitem
    · rename_i hnil
      rw [hnil] at hmem
      exact absurd hmem List.not_mem_nil
    · cases hitem
    · cases hitem
  · exact hitem

/-- **Every field but the tag may be missing**: the rest is read as a message of the variant. -/
theorem variant_of_shorter (hm : m.toJson = .obj fields) (h : fields'.Sublist fields)
    (htype : "type" ∈ fields'.map Prod.fst) :
    ∃ m', ofJson (.obj fields') = some m' ∧ m'.tag = m.tag := by
  have htag := lookup_type hm h htype
  rw [ofJson, JsonField.required, htag]
  cases m with
  | aboutMe signer name nonce sig =>
    obtain rfl := Json.obj.inj hm
    obtain ⟨i₀, signer', h₀, hsigner⟩ :=
      JsonField.exists_elim_of_sublist (textOf_str signer) "" "signer" rfl h
    obtain ⟨i₁, name', h₁, hname⟩ :=
      JsonField.exists_elim_of_sublist (textOf_str name) "" "name" rfl h
    obtain ⟨i₂, nonce', h₂, hnonce⟩ := JsonField.exists_elim_of_sublist
      (nonceOfJson_nonceJson nonce) (.replicate 16 0) "nonce" rfl h
    obtain ⟨i₃, sig', h₃, hsig⟩ :=
      JsonField.exists_elim_of_sublist (sigOfJson_sigJson sig) [] "sig" rfl h
    refine ⟨.aboutMe signer' name' nonce' sig', ?_, rfl⟩
    show JsonField.struct ["signer", "name", "nonce", "sig"] aboutMeOfItems (.obj fields') = _
    simp [JsonField.struct, h₀, h₁, h₂, h₃, aboutMeOfItems, hsigner, hname, hnonce, hsig]
  | chat signer fromName text nonce sig =>
    obtain rfl := Json.obj.inj hm
    obtain ⟨i₀, signer', h₀, hsigner⟩ :=
      JsonField.exists_elim_of_sublist (textOf_str signer) "" "signer" rfl h
    obtain ⟨i₁, fromName', h₁, hname⟩ :=
      JsonField.exists_elim_of_sublist (textOf_str fromName) "" "from_name" rfl h
    obtain ⟨i₂, text', h₂, htext⟩ :=
      JsonField.exists_elim_of_sublist (textOf_str text) "" "text" rfl h
    obtain ⟨i₃, nonce', h₃, hnonce⟩ := JsonField.exists_elim_of_sublist
      (nonceOfJson_nonceJson nonce) (.replicate 16 0) "nonce" rfl h
    obtain ⟨i₄, sig', h₄, hsig⟩ :=
      JsonField.exists_elim_of_sublist (sigOfJson_sigJson sig) [] "sig" rfl h
    refine ⟨.chat signer' fromName' text' nonce' sig', ?_, rfl⟩
    show JsonField.struct ["signer", "from_name", "text", "nonce", "sig"] chatOfItems
      (.obj fields') = _
    simp [JsonField.struct, h₀, h₁, h₂, h₃, h₄, chatOfItems, hsigner, hname, htext, hnonce, hsig]
  | leave signer nonce sig =>
    obtain rfl := Json.obj.inj hm
    obtain ⟨i₀, signer', h₀, hsigner⟩ :=
      JsonField.exists_elim_of_sublist (textOf_str signer) "" "signer" rfl h
    obtain ⟨i₁, nonce', h₁, hnonce⟩ := JsonField.exists_elim_of_sublist
      (nonceOfJson_nonceJson nonce) (.replicate 16 0) "nonce" rfl h
    obtain ⟨i₂, sig', h₂, hsig⟩ :=
      JsonField.exists_elim_of_sublist (sigOfJson_sigJson sig) [] "sig" rfl h
    refine ⟨.leave signer' nonce' sig', ?_, rfl⟩
    show JsonField.struct ["signer", "nonce", "sig"] leaveOfItems (.obj fields') = _
    simp [JsonField.struct, h₀, h₁, h₂, leaveOfItems, hsigner, hnonce, hsig]
  | sync => exact ⟨sync, rfl, rfl⟩
  | unknown => exact ⟨unknown, rfl, rfl⟩

/-- **A variant that is not known** is read as `Unknown`, whatever its fields. -/
theorem ofJson_of_unknown {tag : String} (htag : tag ∉ ["aboutMe", "chat", "leave", "sync"])
    (htype : JsonField.lookup fields "type" = some (some (.str tag))) :
    ofJson (.obj fields) = some unknown := by
  simp only [List.mem_cons, List.not_mem_nil, or_false, not_or] at htag
  obtain ⟨h₀, h₁, h₂, h₃⟩ := htag
  rw [ofJson, JsonField.required, htype]
  show ofTag tag (.obj fields) = _
  rw [ofTag, if_neg h₀, if_neg h₁, if_neg h₂, if_neg h₃]
  rfl

end ChatWireMessage

/-! ## Frames -/

/-- What the chat room relies on: a key is read from the text it is written as, signatures and
ciphertexts are good, and messages are decoded as above. -/
class LawfulChat [ChatLibraries] [SendLibraries] : Prop extends LawfulCipher where
  parsePublicKey_publicKeyString : ∀ secretKey,
    ChatLibraries.parsePublicKey (publicKeyString secretKey) =
      some (SendLibraries.publicKey secretKey)
  verify_sign : ∀ secretKey msg,
    ChatLibraries.verify (SendLibraries.publicKey secretKey) msg
      (SendLibraries.sign secretKey msg) = true
  fromSlice_toBytes : ∀ v : Json, v.Plain →
    ChatLibraries.fromSlice v.toBytes = ChatWireMessage.ofJson v

theorem plainWithin_sigJson (sig : List UInt8) : (sigJson sig).PlainWithin 126 := by
  intro v hv
  obtain ⟨b, -, rfl⟩ := List.mem_map.mp hv
  show b.toNat < 2 ^ 64
  exact Nat.lt_trans b.toNat_lt (by decide)

theorem ChatWireMessage.plain_toJson (m : ChatWireMessage) : m.toJson.Plain := by
  cases m with
  | aboutMe signer name nonce sig =>
    simp [toJson, Json.Plain, Json.PlainWithin, nonceJson, plainWithin_sigJson]
  | chat signer fromName text nonce sig =>
    simp [toJson, Json.Plain, Json.PlainWithin, nonceJson, plainWithin_sigJson]
  | leave signer nonce sig =>
    simp [toJson, Json.Plain, Json.PlainWithin, nonceJson, plainWithin_sigJson]
  | sync => simp [toJson, Json.Plain, Json.PlainWithin]
  | unknown => simp [toJson, Json.Plain, Json.PlainWithin]

section Frames

variable [ChatLibraries] [SendLibraries] [LawfulChat] {keys : RoomKeys} {iv : FixedBytes 12}
  {frame : List UInt8}

/-- A frame that is short enough is read as the value that was encrypted. -/
theorem RoomKeys.wireOf_encryptData {v : Json} (hplain : v.Plain)
    (hframe : encryptData v.toBytes keys.aesKey iv = .ok frame)
    (hfits : frame.length ≤ maxWireBytes) : keys.wireOf frame = ChatWireMessage.ofJson v := by
  rw [wireOf, if_neg (Nat.not_lt.mpr hfits), decryptData_encryptData hframe]
  exact LawfulChat.fromSlice_toBytes v hplain

/-- **The stability contract.**  A peer reads a message as it was sent, whatever the order of its
fields and with fields that the peer does not know; a message without some of its fields is read as
one of the same variant; and a message of a variant that the peer does not know changes nothing.

This is so for the frames that fit the wire, and as long as the new fields hold plain values: a peer
drops a frame that is too long without reading it, and nothing is said here of numbers that are
negative or no integers, or of values that are nested deeper than readers go. -/
theorem wire_stability {m : ChatWireMessage} {fields fields' : List (String × Json)}
    (hm : m.toJson = .obj fields) (hplain : (Json.obj fields').Plain)
    (hframe : encryptData (Json.obj fields').toBytes keys.aesKey iv = .ok frame)
    (hfits : frame.length ≤ maxWireBytes) :
    ((fields'.filter fun field => field.1 ∈ ChatWireMessage.fieldNames).Perm fields →
      keys.wireOf frame = some m) ∧
    (fields'.Sublist fields → "type" ∈ fields'.map Prod.fst →
      ∃ m', keys.wireOf frame = some m' ∧ m'.tag = m.tag) ∧
    ∀ tag ∉ ["aboutMe", "chat", "leave", "sync"],
      JsonField.lookup fields' "type" = some (some (.str tag)) →
        ∀ task : RoomTask, task.keys = keys → task.step (.received frame) = (task, []) := by
  rw [RoomKeys.wireOf_encryptData hplain hframe hfits]
  refine ⟨ChatWireMessage.ofJson_of_perm hm, ChatWireMessage.variant_of_shorter hm,
    fun tag htag htype task hkeys => ?_⟩
  have hwire : task.keys.wireOf frame = some .unknown := by
    rw [hkeys, RoomKeys.wireOf_encryptData hplain hframe hfits,
      ChatWireMessage.ofJson_of_unknown htag htype]
  rw [RoomTask.step]
  split_ifs
  · rfl
  · rw [RoomTask.receive, hwire]

end Frames

/-! ## A message with a new field -/

namespace WireSample

open PairSample (receiverHex receiverPublic senderHex)
open Sample (hexBytes hiNonce knownDecrypt knownDecrypt_knownEncrypt knownEncrypt
  length_knownEncrypt roomKeys senderCiphertext senderIv senderPublic senderSecret senderSig
  senderWire)

/-- The fields of the sample message, and one that is not known. -/
def editedFields : List (String × Json) :=
  [("type", .str "chat"), ("edited", .bool false),
    ("signer", .str senderHex), ("from_name", .str "alice"), ("text", .str "hi"),
    ("nonce", nonceJson hiNonce), ("sig", sigJson senderSig.toList)]

def editedIv : FixedBytes 12 := .replicate 12 2

def editedCiphertext : List UInt8 :=
  hexBytes (
    "669798f62a9df6ad0e896e95cfa70465c5204abf363a0da5def1da806bb72fd470b032bd5ace4fda75d54e47" ++
    "506b987eadcb6ef2fef2209889480f56af6a199a7567b1ea67ed11cb9dff1b2f6bdcf65d77c86676a9db9fdf" ++
    "37cba0cd7b3b8e9c5487443acf86bc5478997cff63ffe6258039811f257f987e05f6dfc78995bcd5ccec796e" ++
    "c6a8745bd80d94426874298c3074a16feb772c300493a8103ede25315b4679e868902520062c227f209d5163" ++
    "c4716b65ac1392ebad6cf0b84642da944b582eea0ab6c093a20d11a727e055430198f2b32faaafe547ecd50d" ++
    "f1b3e970864a63ce00231bb6420eef99210a9ad80c18de3ba2f466db1c5b7ffd558e3aa30d91e19b84af3f44" ++
    "fca4784c806873e2173d6ae667605da42282a3fe8dd2b1e0efa058377e5ccaf3ebe2fdfedac0582bc42585f8" ++
    "a9a3460bc18eca580b97c1b66b690d41e255721421b98aa81ac568aa5495f4c9742bc06b8be83e281c11f77c" ++
    "6390a1b0564022a85d2d528b2b21013889bdbc76137c8ce3defa2b5fd80260b218d89ce4b1093e88a832814f" ++
    "cc587e102d1f7799498fb61952f19e74bfc2487b69540f938133a83e18f9ec7c7d4970")

/-- Both messages, and their ciphertexts. -/
def known : List Sample.Known :=
  [(roomKeys.aesKey, senderIv, senderWire.toJson.toBytes, senderCiphertext),
    (roomKeys.aesKey, editedIv, (Json.obj editedFields).toBytes, editedCiphertext)]

set_option maxRecDepth 20000 in
theorem known_well : Sample.KnownWell known := by decide +kernel

/-- Both messages are encrypted so. -/
theorem knownEncrypt_known :
    knownEncrypt known roomKeys.aesKey senderIv senderWire.toJson.toBytes = .ok senderCiphertext ∧
      knownEncrypt known roomKeys.aesKey editedIv (Json.obj editedFields).toBytes =
        .ok editedCiphertext := by
  have hiv : senderIv ≠ editedIv := by decide
  constructor
  · rw [knownEncrypt, known, List.find?_cons_of_pos (by simp)]
  · rw [knownEncrypt, known, List.find?_cons_of_neg (by simp [hiv]),
      List.find?_cons_of_pos (by simp)]

/-- What the sender signs. -/
def hiPayload : List UInt8 := chatPayload roomKeys.topicId senderPublic hiNonce "hi"

/-- The libraries on these messages.  Everything else is signed by zeros. -/
scoped instance : JoinLibraries where
  parsePublicKey s :=
    if s = senderHex then some senderPublic
    else if s = receiverHex then some receiverPublic
    else none
  verify pk msg sig :=
    if pk = senderPublic ∧ msg = hiPayload then decide (sig = senderSig)
    else decide (sig = .replicate 64 0)
  aesGcmDecrypt := knownDecrypt known
  fromSlice bs := (Json.readBytes bs).bind ChatWireMessage.ofJson
  hkdfExpand secret info :=
    if secret = .replicate 32 7 ∧ info = utf8Bytes "iroh-messenger/topic-id/v1" then
      roomKeys.topicId
    else roomKeys.aesKey
  keyParsingError _ := "decoding failed"

scoped instance : SendLibraries where
  publicKey secret := if secret = senderSecret then senderPublic else receiverPublic
  sign secret msg :=
    if secret = senderSecret ∧ msg = hiPayload then senderSig else .replicate 64 0
  aesGcmEncrypt := knownEncrypt known
  length_aesGcmEncrypt := length_knownEncrypt known_well

scoped instance : TopicText := ⟨fun topicId => String.ofList (toHex topicId.toList)⟩

theorem publicKey_cases (secretKey : FixedBytes 32) :
    secretKey = senderSecret ∧ SendLibraries.publicKey secretKey = senderPublic ∨
      secretKey ≠ senderSecret ∧ SendLibraries.publicKey secretKey = receiverPublic := by
  by_cases h : secretKey = senderSecret
  · exact Or.inl ⟨h, if_pos h⟩
  · exact Or.inr ⟨h, if_neg h⟩

theorem verify_eq (pk : FixedBytes 32) (msg : List UInt8) (sig : FixedBytes 64) :
    ChatLibraries.verify pk msg sig =
      if pk = senderPublic ∧ msg = hiPayload then decide (sig = senderSig)
      else decide (sig = .replicate 64 0) :=
  rfl

theorem sign_eq (secretKey : FixedBytes 32) (msg : List UInt8) :
    SendLibraries.sign secretKey msg =
      if secretKey = senderSecret ∧ msg = hiPayload then senderSig else .replicate 64 0 :=
  rfl

scoped instance : LawfulChat where
  decrypt_encrypt := knownDecrypt_knownEncrypt known_well
  parsePublicKey_publicKeyString secretKey := by
    rcases publicKey_cases secretKey with ⟨-, h⟩ | ⟨-, h⟩
    · rw [publicKeyString, h]
      exact if_pos rfl
    · rw [publicKeyString, h]
      decide +kernel
  verify_sign secretKey msg := by
    rw [verify_eq, sign_eq]
    rcases publicKey_cases secretKey with ⟨hsecret, h⟩ | ⟨hsecret, h⟩
    · rw [h, hsecret]
      by_cases hmsg : msg = hiPayload
      · rw [if_pos ⟨rfl, hmsg⟩, if_pos ⟨rfl, hmsg⟩, decide_eq_true rfl]
      · rw [if_neg fun heq => hmsg heq.2, if_neg fun heq => hmsg heq.2, decide_eq_true rfl]
    · have hne : receiverPublic ≠ senderPublic := by decide
      rw [h, if_neg fun heq => hne heq.1, if_neg fun heq => hsecret heq.1, decide_eq_true rfl]
  fromSlice_toBytes v _ := by
    show (Json.readBytes v.toBytes).bind ChatWireMessage.ofJson = _
    rw [Json.readBytes_toBytes, Option.bind_some]

end WireSample

section Sample

open scoped WireSample
open PairSample (senderHex)
open Sample (hiNonce roomKeys senderSig senderWire)
open WireSample

/-- A peer that does not know the new field reads the message without it. -/
theorem wire_stability_sample :
    roomKeys.wireOf (1 :: (editedIv.toList ++ editedCiphertext)) = some senderWire := by
  have hplain : (Json.obj editedFields).Plain := by
    simp [editedFields, Json.Plain, Json.PlainWithin, nonceJson, plainWithin_sigJson]
  have hframe : encryptData (Json.obj editedFields).toBytes roomKeys.aesKey editedIv =
      .ok (1 :: (editedIv.toList ++ editedCiphertext)) := by
    have hct : SendLibraries.aesGcmEncrypt roomKeys.aesKey editedIv
        (Json.obj editedFields).toBytes = .ok editedCiphertext := knownEncrypt_known.2
    rw [encryptData, hct]
    rfl
  have hperm : (editedFields.filter fun field => field.1 ∈ ChatWireMessage.fieldNames).Perm
      [("type", .str "chat"), ("signer", .str senderHex), ("from_name", .str "alice"),
        ("text", .str "hi"), ("nonce", nonceJson hiNonce), ("sig", sigJson senderSig.toList)] := by
    exact .refl _
  exact (wire_stability (m := senderWire) rfl hplain hframe (by decide +kernel)).1 hperm

end Sample

end IrohWebRtc
