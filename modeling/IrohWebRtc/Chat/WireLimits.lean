import IrohWebRtc.Chat.Gossip
import IrohWebRtc.Lib.Base64
import IrohWebRtc.Lib.Json

/-!
# The size of chat messages

What becomes of a text that the user sends: `do_send` of `commands.rs` cuts the display name and
the text, the `Send` arm of `handle_command` signs them, and `broadcast_encrypted` encodes and
encrypts the message.  The cuts count characters, and a receiver drops frames by their bytes.

A character has up to four bytes in UTF-8, six in JSON where it is escaped, and the bytes of the
signature are written as decimal numbers.  So the length of a frame depends on the text, on the
name and on the digits of the signature, and is computed exactly.  Nothing on the way measures it:
the sender shows the message in its own room, broadcasts it, and nobody ever sees it.

* `sendFrame_length`: how many bytes a chat message is broadcast as.
* `emoji_text_is_dropped`: a text of four thousand emojis is too long.
* `chatFrame_fits_iff`: which names and texts fit.

Ed25519 and AES-GCM are parameters (`SendLibraries`); of the cipher it is assumed that it adds its
tag of sixteen bytes.
-/

namespace IrohWebRtc

open Bytes Utf8

/-- What sending uses of its libraries. -/
class SendLibraries where
  /-- `SecretKey::public`, as the bytes of the key. -/
  publicKey : FixedBytes 32 → FixedBytes 32
  /-- `SecretKey::sign`. -/
  sign : FixedBytes 32 → List UInt8 → FixedBytes 64
  /-- AES-256-GCM of the browser: key, initialisation vector and data. -/
  aesGcmEncrypt : FixedBytes 32 → FixedBytes 12 → List UInt8 → Except String (List UInt8)
  /-- The ciphertext ends with a tag of sixteen bytes. -/
  length_aesGcmEncrypt : ∀ {key iv data ciphertext},
    aesGcmEncrypt key iv data = .ok ciphertext → ciphertext.length = data.length + 16

/-! ## Encoding -/

/-- `serde_nonce`. -/
def nonceJson (nonce : FixedBytes 16) : Json :=
  .str (String.ofList (Base64.pad (Base64.encode Base64.standard nonce.toList)))

def sigJson (sig : List UInt8) : Json := .arr (sig.map fun b => .num b.toNat)

/-- `Serialize`. -/
def ChatWireMessage.toJson : ChatWireMessage → Json
  | .aboutMe signer name nonce sig =>
    .obj [("type", .str "aboutMe"), ("signer", .str signer), ("name", .str name),
      ("nonce", nonceJson nonce), ("sig", sigJson sig)]
  | .chat signer fromName text nonce sig =>
    .obj [("type", .str "chat"), ("signer", .str signer), ("from_name", .str fromName),
      ("text", .str text), ("nonce", nonceJson nonce), ("sig", sigJson sig)]
  | .leave signer nonce sig =>
    .obj [("type", .str "leave"), ("signer", .str signer), ("nonce", nonceJson nonce),
      ("sig", sigJson sig)]
  | .sync => .obj [("type", .str "sync")]
  | .unknown => .obj [("type", .str "unknown")]

/-! ## Sending -/

/-- `do_send`: the command it sends. -/
def doSend (endpoint name text topicId : String) : ChatGossipCommand :=
  .send topicId endpoint (truncateChars name maxNameChars) (truncateChars text maxTextChars)

section Send

variable [SendLibraries]

/-- `public_key_string`. -/
def publicKeyString (secretKey : FixedBytes 32) : String :=
  String.ofList (toHex (SendLibraries.publicKey secretKey).toList)

/-- `sign_chat`. -/
def signChat (secretKey topicId : FixedBytes 32) (nonce : FixedBytes 16) (text : String) :
    FixedBytes 64 :=
  SendLibraries.sign secretKey
    (chatPayload topicId (SendLibraries.publicKey secretKey) nonce text)

/-- `encrypt_data`, with the initialisation vector it draws. -/
def encryptData (data : List UInt8) (key : FixedBytes 32) (iv : FixedBytes 12) :
    Except String (List UInt8) :=
  (SendLibraries.aesGcmEncrypt key iv data).map fun ct => 1 :: (iv.toList ++ ct)

/-- `broadcast_encrypted`, up to the frame it broadcasts. -/
def encryptedFrame (msg : ChatWireMessage) (key : FixedBytes 32) (iv : FixedBytes 12) :
    Except Error (List UInt8) :=
  match encryptData msg.toJson.toBytes key iv with
  | .error e => .error (.webRtc ("encrypt error: " ++ e))
  | .ok encrypted => .ok encrypted

/-- The frame that the `Send` arm broadcasts. -/
def sendFrame (secretKey : FixedBytes 32) (roomKeys : RoomKeys) (nonce : FixedBytes 16)
    (iv : FixedBytes 12) (fromName text : String) : Except Error (List UInt8) :=
  encryptedFrame
    (.chat (publicKeyString secretKey) fromName text nonce
      (signChat secretKey roomKeys.topicId nonce text).toList) roomKeys.aesKey iv

/-! ## Sizes -/

theorem textSize_publicKeyString (secretKey : FixedBytes 32) :
    Json.textSize (publicKeyString secretKey) = 64 := by
  have hdigits : ∀ n < 16, Json.charSize (Nat.digitChar n) = 1 := by decide
  have hone : ∀ c ∈ (publicKeyString secretKey).toList, Json.charSize c = 1 := by
    intro c hc
    rw [publicKeyString, String.toList_ofList] at hc
    obtain ⟨n, hn, rfl⟩ := exists_digit_of_mem_toHex hc
    exact hdigits n hn
  rw [Json.textSize_eq_length hone, publicKeyString, String.toList_ofList, length_toHex,
    FixedBytes.length_toList]

omit [SendLibraries] in
theorem size_nonceJson (nonce : FixedBytes 16) : size (nonceJson nonce).print = 26 := by
  have hall : (Base64.standard.all fun c => Json.charSize c = 1) = true := by decide +kernel
  have hsymbols : ∀ c ∈ Base64.standard, Json.charSize c = 1 := fun c hc =>
    of_decide_eq_true (List.all_eq_true.mp hall c hc)
  have hone : ∀ c ∈ (String.ofList
      (Base64.pad (Base64.encode Base64.standard nonce.toList))).toList, Json.charSize c = 1 := by
    intro c hc
    rw [String.toList_ofList, Base64.pad] at hc
    rcases List.mem_append.mp hc with hc | hc
    · exact hsymbols c (Base64.mem_of_mem_encode rfl hc)
    · rw [List.eq_of_mem_replicate hc]
      rfl
  show size (Json.printString _) = 26
  rw [Json.size_printString, Json.textSize_eq_length hone, String.toList_ofList, Base64.pad,
    List.length_append, List.length_replicate, Base64.length_encode, FixedBytes.length_toList]

/-- The decimal digits of the bytes of a signature. -/
def sigDigits (sig : FixedBytes 64) : ℕ := (sig.toList.map Json.byteDigits).sum

omit [SendLibraries] in
theorem size_sigJson (sig : FixedBytes 64) : size (sigJson sig.toList).print = sigDigits sig + 65 := by
  have hne : sig.toList ≠ [] := by
    intro hnil
    have hlength := sig.length_toList
    rw [hnil] at hlength
    exact absurd hlength (by decide)
  rw [sigJson, Json.size_print_bytes hne, FixedBytes.length_toList, sigDigits]

/-- The bytes of a chat message. -/
theorem length_chat_toBytes (secretKey : FixedBytes 32) (fromName text : String)
    (nonce : FixedBytes 16) (sig : FixedBytes 64) :
    (ChatWireMessage.chat (publicKeyString secretKey) fromName text nonce
      sig.toList).toJson.toBytes.length =
        223 + Json.textSize fromName + Json.textSize text + sigDigits sig := by
  have hstr : ∀ s, size (Json.print (.str s)) = Json.textSize s + 2 := fun s => by
    rw [Json.print, Json.size_printString]
  have hkeys : Json.textSize "type" = 4 ∧ Json.textSize "chat" = 4 ∧ Json.textSize "signer" = 6 ∧
      Json.textSize "from_name" = 9 ∧ Json.textSize "text" = 4 ∧ Json.textSize "nonce" = 5 ∧
      Json.textSize "sig" = 3 := by
    decide +kernel
  obtain ⟨htype, hchat, hsigner, hname, htext, hnonce, hsig⟩ := hkeys
  rw [Json.length_toBytes, ChatWireMessage.toJson, Json.size_print_obj]
  simp only [List.map_cons, List.map_nil, List.sum_cons, List.sum_nil, Json.fieldSize, hstr,
    size_nonceJson, size_sigJson, textSize_publicKeyString, htype, hchat, hsigner, hname, htext,
    hnonce, hsig]
  omega

/-- The bytes of the frame of a chat message: a version, an initialisation vector, the message and
a tag. -/
theorem sendFrame_length {secretKey : FixedBytes 32} {roomKeys : RoomKeys} {nonce : FixedBytes 16}
    {iv : FixedBytes 12} {fromName text : String} {frame : List UInt8}
    (h : sendFrame secretKey roomKeys nonce iv fromName text = .ok frame) :
    frame.length = 252 + Json.textSize fromName + Json.textSize text +
      sigDigits (signChat secretKey roomKeys.topicId nonce text) := by
  rw [sendFrame, encryptedFrame, encryptData] at h
  cases hencrypt : SendLibraries.aesGcmEncrypt roomKeys.aesKey iv
      (ChatWireMessage.chat (publicKeyString secretKey) fromName text nonce
        (signChat secretKey roomKeys.topicId nonce text).toList).toJson.toBytes with
  | error e =>
    rw [hencrypt] at h
    cases h
  | ok ct =>
    rw [hencrypt] at h
    obtain rfl := Except.ok.inj h
    rw [List.length_cons, List.length_append, FixedBytes.length_toList,
      SendLibraries.length_aesGcmEncrypt hencrypt, length_chat_toBytes]
    omega

omit [SendLibraries] in
/-- A frame that is too long is dropped without a trace. -/
theorem RoomTask.receive_of_oversized [ChatLibraries] {frame : List UInt8}
    (h : maxWireBytes < frame.length) (task : RoomTask) : task.receive frame = (task, []) := by
  rw [RoomTask.receive, RoomKeys.wireOf, if_pos h]

/-- The names and texts whose message fits under a signature. -/
def FitsWire (name text : String) (sig : FixedBytes 64) : Prop :=
  Json.textSize (truncateChars name maxNameChars) + Json.textSize (truncateChars text maxTextChars) +
    sigDigits sig ≤ 7940

instance (name text : String) (sig : FixedBytes 64) : Decidable (FitsWire name text sig) :=
  inferInstanceAs (Decidable (_ ≤ _))

/-- **A chat message fits exactly when name, text and signature take at most 7940 bytes**, escapes
and UTF-8 counted; every other one is dropped by all receivers. -/
theorem chatFrame_fits_iff [ChatLibraries] {secretKey : FixedBytes 32} {roomKeys : RoomKeys}
    {nonce : FixedBytes 16} {iv : FixedBytes 12}
    {endpoint name text topicId topic fromEndpoint fromName sentText : String} {frame : List UInt8}
    (hcommand : doSend endpoint name text topicId = .send topic fromEndpoint fromName sentText)
    (hframe : sendFrame secretKey roomKeys nonce iv fromName sentText = .ok frame) :
    (frame.length ≤ maxWireBytes ↔
      FitsWire name text (signChat secretKey roomKeys.topicId nonce sentText)) ∧
    (¬ FitsWire name text (signChat secretKey roomKeys.topicId nonce sentText) →
      ∀ task : RoomTask, task.receive frame = (task, [])) := by
  obtain ⟨-, -, rfl, rfl⟩ := ChatGossipCommand.send.inj hcommand
  have hiff : frame.length ≤ maxWireBytes ↔ FitsWire name text
      (signChat secretKey roomKeys.topicId nonce (truncateChars text maxTextChars)) := by
    rw [sendFrame_length hframe, FitsWire, maxWireBytes]
    omega
  refine ⟨hiff, fun hlong task => RoomTask.receive_of_oversized ?_ task⟩
  exact Nat.lt_of_not_le fun hfits => hlong (hiff.mp hfits)

end Send

/-! ## A message that fits, and one that does not -/

namespace Sample

def senderSecret : FixedBytes 32 := .replicate 32 7

def senderPublic : FixedBytes 32 :=
  ⟨hexBytes "ea4a6c63e29c520abef5507b132ec5f9954776aebebe7b92421eea691446d22c", by decide⟩

/-- Its signature of the text `hi` in the sample room. -/
def senderSig : FixedBytes 64 :=
  ⟨hexBytes ("e07bafe9cbb5beee595dc67c4336a0d97a0aad8dda8e5f3a5702f2b869d0a6cd" ++
    "bda3d5464aa8faeeedb3f66cc3eb8ace611c529d02362ed9892570159edf940a"), by decide⟩

def senderIv : FixedBytes 12 := .replicate 12 1

def senderWire : ChatWireMessage :=
  .chat (String.ofList (toHex senderPublic.toList)) "alice" "hi" hiNonce senderSig.toList

def senderCiphertext : List UInt8 :=
  hexBytes (
    "f1b64726de3d1efcca7ef0ee6f3f6fae08bed0b794f903bfa03bfe06f5ca5bda3c2b7eec616d2f582d9c3905" ++
    "0bd7d419dbe39616302115c45df171e4d5401639355af95023fd4e5dc79b46e7eb711e06a17026131bf82dd0" ++
    "568e01e058ee9bf06c0decf0120bf1ea06ce1dda3d19a18c9f9fa9678f45316e425566ffa5ee4f4c3a17fa4f" ++
    "b47a0d773838b1ded79e343b9adff6072e004610a3126aec1314531059c0d1ed80695c47b653d69f6eec42b1" ++
    "ff0118aac86006ac30d931430a557dc74b5ee44340cdf1e5ec9484a7db2a5a49d68e10804e89e6569086e9a0" ++
    "a35a526e646621350586402650d17df5116b3aab84b27da724eb41c86fbd26d49848225fbddd31c392b48f17" ++
    "ef438649f701c5b8e9b040f7ebe0fb1493d0165e9edb40d2e93f714d69d8131931496d02b983735e3a9e11cd" ++
    "5e13922b669fe24dd2dde91cae97f073eacd662c5ec6db96d69ae5711825fd55545f91bca7687518b5247824" ++
    "883aa16b6dbf3120a4746c700f9f1577820cd0c2e2c898fbf997e0419b3b7cf1520ab064cfcd8d870b28e77d" ++
    "c4f3e282314fa358336e243f203c52379cb83201")

set_option maxRecDepth 20000 in
theorem length_senderCiphertext :
    senderCiphertext.length = senderWire.toJson.toBytes.length + 16 := by
  decide +kernel

/-- The libraries on that message; every other one has a ciphertext of the right length. -/
scoped instance : SendLibraries where
  publicKey _ := senderPublic
  sign _ _ := senderSig
  aesGcmEncrypt key iv data :=
    if key = roomKeys.aesKey ∧ iv = senderIv ∧ data = senderWire.toJson.toBytes then
      .ok senderCiphertext
    else .ok (data ++ List.replicate 16 0)
  length_aesGcmEncrypt := by
    intro key iv data ciphertext h
    by_cases hsample : key = roomKeys.aesKey ∧ iv = senderIv ∧ data = senderWire.toJson.toBytes
    · rw [if_pos hsample] at h
      obtain rfl := Except.ok.inj h
      rw [hsample.2.2, length_senderCiphertext]
    · rw [if_neg hsample] at h
      obtain rfl := Except.ok.inj h
      rw [List.length_append, List.length_replicate]

theorem aesGcmEncrypt_eq (key : FixedBytes 32) (iv : FixedBytes 12) (data : List UInt8) :
    SendLibraries.aesGcmEncrypt key iv data =
      if key = roomKeys.aesKey ∧ iv = senderIv ∧ data = senderWire.toJson.toBytes then
        .ok senderCiphertext
      else .ok (data ++ List.replicate 16 0) :=
  rfl

/-- Some times the same emoji. -/
def emojis (n : ℕ) : String := String.ofList (List.replicate n '😀')

/-- A text that is just short enough is left alone. -/
theorem truncateChars_emojis (n : ℕ) : truncateChars (emojis n) n = emojis n := by
  rw [truncateChars, emojis, String.toList_ofList, List.length_replicate, if_neg (Nat.lt_irrefl n)]

theorem textSize_emojis (n : ℕ) : Json.textSize (emojis n) = n * 4 := by
  rw [Json.textSize, emojis, String.toList_ofList, List.map_replicate, List.sum_replicate]
  rfl

end Sample

section Sample

open scoped Sample
open Sample

theorem sendFrame_sender :
    sendFrame senderSecret roomKeys hiNonce senderIv "alice" "hi" =
      .ok (1 :: (senderIv.toList ++ senderCiphertext)) := by
  show encryptedFrame senderWire roomKeys.aesKey senderIv = _
  rw [encryptedFrame, encryptData, aesGcmEncrypt_eq, if_pos ⟨rfl, rfl, rfl⟩]
  rfl

/-- The text `hi` fits. -/
theorem chatFrame_fits_iff_sample :
    (1 :: (senderIv.toList ++ senderCiphertext)).length ≤ maxWireBytes := by
  have hcommand : doSend "" "alice" "hi" "room" = .send "room" "" "alice" "hi" := by decide
  exact (chatFrame_fits_iff hcommand sendFrame_sender).1.mpr (by decide +kernel)

/-- A text of four thousand emojis is broadcast in a frame that every receiver drops. -/
theorem emoji_text_is_dropped :
    ∃ fromName text frame,
      doSend "" "alice" (emojis maxTextChars) "room" = .send "room" "" fromName text ∧
      sendFrame senderSecret roomKeys hiNonce senderIv fromName text = .ok frame ∧
      maxWireBytes < frame.length ∧ ∀ task : RoomTask, task.receive frame = (task, []) := by
  have hsent : ∀ wire : ChatWireMessage, ∃ frame,
      encryptedFrame wire roomKeys.aesKey senderIv = .ok frame := by
    intro wire
    rw [encryptedFrame, encryptData, aesGcmEncrypt_eq]
    split_ifs <;> exact ⟨_, rfl⟩
  obtain ⟨frame, hframe⟩ := hsent (.chat (publicKeyString senderSecret)
    (truncateChars "alice" maxNameChars) (truncateChars (emojis maxTextChars) maxTextChars) hiNonce
    (signChat senderSecret roomKeys.topicId hiNonce
      (truncateChars (emojis maxTextChars) maxTextChars)).toList)
  have hlong : maxWireBytes < frame.length := by
    rw [sendFrame_length hframe, truncateChars_emojis, textSize_emojis, maxTextChars, maxWireBytes]
    omega
  exact ⟨_, _, frame, rfl, hframe, hlong, fun task => task.receive_of_oversized hlong⟩

end Sample

end IrohWebRtc
