import IrohWebRtc.Lib.Bytes
import IrohWebRtc.Lib.Utf8

/-!
# Messages of the chat room

The wire messages of `protocol.rs` in the browser chat room, and the parts of `crypto.rs` and
`util.rs` that a receiver applies to them.

Each authenticated variant signs a payload

`domain ++ topic_id[32] ++ signer_pk[32] ++ nonce[16] ++ rest`

with a domain of its own.  The display name of `AboutMe` and the text of `Chat` are the rest of
their payloads; the display name of `Chat` is in no payload.

A signature is over bytes, so what it says of a message is what can be read off the bytes again.
That the fields can be read off is not obvious, because the domains have different lengths and
nothing separates the parts.  It holds because a domain ends in a zero byte and contains no other,
so that no domain with what follows it is another one with something else behind it
(`Lib.PrefixCode`).

Keys, signatures, the cipher and the JSON decoder are those of libraries.  They are collected in
`ChatLibraries`.

* `SignedVariant.prefixFree_domain`: the zero bytes separate the domains from what follows.
* `payloadOf_eq_iff`, `SignedContent.payload_eq_iff`, `signedPayload_injective`: the layouts are
  injective, over the variants too.
* `payload_eq_aboutMe`, `payload_eq_chat`, `payload_eq_leave`: what a payload determines.
-/

namespace IrohWebRtc

open Bytes PrefixCode Utf8

/-! ## Wire messages -/

/-- `ChatWireMessage`. -/
inductive ChatWireMessage where
  | aboutMe (signer name : String) (nonce : FixedBytes 16) (sig : List UInt8)
  | chat (signer fromName text : String) (nonce : FixedBytes 16) (sig : List UInt8)
  | leave (signer : String) (nonce : FixedBytes 16) (sig : List UInt8)
  | sync
  | unknown
  deriving DecidableEq

/-- What the chat room uses of its libraries. -/
class ChatLibraries where
  /-- `str::parse::<PublicKey>`, as the bytes of the key. -/
  parsePublicKey : String → Option (FixedBytes 32)
  /-- `PublicKey::verify`. -/
  verify : FixedBytes 32 → List UInt8 → FixedBytes 64 → Bool
  /-- AES-256-GCM of the browser: key, initialisation vector and ciphertext. -/
  aesGcmDecrypt : FixedBytes 32 → List UInt8 → List UInt8 → Except String (List UInt8)
  /-- `serde_json::from_slice::<ChatWireMessage>`. -/
  fromSlice : List UInt8 → Option ChatWireMessage

def maxWireBytes : ℕ := 8192

def maxNameChars : ℕ := 32

def maxTextChars : ℕ := 4000

/-- The domain of a variant ends with a zero byte. -/
def sigDomainAboutMe : List UInt8 := utf8Bytes "iroh-msgr/about-me/v1" ++ [0]

def sigDomainChat : List UInt8 := utf8Bytes "iroh-msgr/chat/v1" ++ [0]

def sigDomainLeave : List UInt8 := utf8Bytes "iroh-msgr/leave/v1" ++ [0]

/-! ## Payloads -/

/-- The layout all signed payloads share. -/
def payloadOf (domain : List UInt8) (topicId signerPk : FixedBytes 32) (nonce : FixedBytes 16)
    (rest : List UInt8) : List UInt8 :=
  domain ++ (topicId.toList ++ (signerPk.toList ++ (nonce.toList ++ rest)))

def aboutMePayload (topicId signerPk : FixedBytes 32) (nonce : FixedBytes 16) (name : String) :
    List UInt8 :=
  payloadOf sigDomainAboutMe topicId signerPk nonce (utf8Bytes name)

def chatPayload (topicId signerPk : FixedBytes 32) (nonce : FixedBytes 16) (text : String) :
    List UInt8 :=
  payloadOf sigDomainChat topicId signerPk nonce (utf8Bytes text)

def leavePayload (topicId signerPk : FixedBytes 32) (nonce : FixedBytes 16) : List UInt8 :=
  payloadOf sigDomainLeave topicId signerPk nonce []

/-- The variants that are signed. -/
inductive SignedVariant where
  | aboutMe
  | chat
  | leave
  deriving DecidableEq

namespace SignedVariant

/-- The text of a domain, before the zero byte that ends it. -/
def tag : SignedVariant → List UInt8
  | .aboutMe => utf8Bytes "iroh-msgr/about-me/v1"
  | .chat => utf8Bytes "iroh-msgr/chat/v1"
  | .leave => utf8Bytes "iroh-msgr/leave/v1"

def domain : SignedVariant → List UInt8
  | .aboutMe => sigDomainAboutMe
  | .chat => sigDomainChat
  | .leave => sigDomainLeave

theorem domain_eq (v : SignedVariant) : v.domain = v.tag ++ [0] := by
  cases v <;> rfl

theorem tag_injective : Function.Injective tag := by
  intro v v' h
  cases v <;> cases v' <;> first | rfl | exact absurd h (by decide)

theorem zero_notMem_tag (v : SignedVariant) : 0 ∉ v.tag := by
  cases v <;> decide

/-- The zero byte ends a domain: no domain is the start of another one's payload. -/
theorem prefixFree_domain : PrefixFree domain := by
  have hterminated := prefixFree_of_terminated tag_injective zero_notMem_tag
  rwa [← funext domain_eq] at hterminated

end SignedVariant

/-- The layout is injective, over the variants too. -/
theorem payloadOf_eq_iff {v v' : SignedVariant}
    {topicId topicId' signerPk signerPk' : FixedBytes 32} {nonce nonce' : FixedBytes 16} {rest rest' : List UInt8} :
    payloadOf v.domain topicId signerPk nonce rest =
        payloadOf v'.domain topicId' signerPk' nonce' rest' ↔
      v = v' ∧ topicId = topicId' ∧ signerPk = signerPk' ∧ nonce = nonce' ∧ rest = rest' := by
  rw [payloadOf, payloadOf, SignedVariant.prefixFree_domain.append_eq_append_iff,
    FixedBytes.prefixFree_toList.append_eq_append_iff,
    FixedBytes.prefixFree_toList.append_eq_append_iff,
    FixedBytes.prefixFree_toList.append_eq_append_iff]

/-- What is signed besides the topic, the signer and the nonce. -/
inductive SignedContent where
  | aboutMe (name : String)
  | chat (text : String)
  | leave
  deriving DecidableEq

namespace SignedContent

def variant : SignedContent → SignedVariant
  | .aboutMe _ => .aboutMe
  | .chat _ => .chat
  | .leave => .leave

/-- The last field of the payload. -/
def rest : SignedContent → List UInt8
  | .aboutMe name => utf8Bytes name
  | .chat text => utf8Bytes text
  | .leave => []

/-- The payload a signature is made over. -/
def payload (topicId signerPk : FixedBytes 32) (nonce : FixedBytes 16) :
    SignedContent → List UInt8
  | .aboutMe name => aboutMePayload topicId signerPk nonce name
  | .chat text => chatPayload topicId signerPk nonce text
  | .leave => leavePayload topicId signerPk nonce

theorem ext_iff {c c' : SignedContent} : c = c' ↔ c.variant = c'.variant ∧ c.rest = c'.rest := by
  cases c <;> cases c' <;>
    simp [variant, rest, utf8Bytes_injective.eq_iff]

theorem payload_eq (c : SignedContent) (topicId signerPk : FixedBytes 32) (nonce : FixedBytes 16) :
    c.payload topicId signerPk nonce =
      payloadOf c.variant.domain topicId signerPk nonce c.rest := by
  cases c <;> rfl

/-- What a payload determines: all that is signed. -/
theorem payload_eq_iff {c c' : SignedContent} {topicId topicId' signerPk signerPk' : FixedBytes 32}
    {nonce nonce' : FixedBytes 16} :
    c.payload topicId signerPk nonce = c'.payload topicId' signerPk' nonce' ↔
      c = c' ∧ topicId = topicId' ∧ signerPk = signerPk' ∧ nonce = nonce' := by
  rw [payload_eq, payload_eq, payloadOf_eq_iff, ext_iff]
  tauto

end SignedContent

/-- **The payloads are injective.**  Equal payloads come from one variant, topic, signer and
nonce, and carry the same bytes after them: the three layouts with any bytes in their last field,
and the payloads the variants sign. -/
theorem signedPayload_injective (topicId topicId' signerPk signerPk' : FixedBytes 32)
    (nonce nonce' : FixedBytes 16) :
    (∀ (v v' : SignedVariant) (rest rest' : List UInt8),
      payloadOf v.domain topicId signerPk nonce rest =
          payloadOf v'.domain topicId' signerPk' nonce' rest' ↔
        v = v' ∧ topicId = topicId' ∧ signerPk = signerPk' ∧ nonce = nonce' ∧ rest = rest') ∧
    ∀ c c' : SignedContent,
      c.payload topicId signerPk nonce = c'.payload topicId' signerPk' nonce' ↔
        c = c' ∧ topicId = topicId' ∧ signerPk = signerPk' ∧ nonce = nonce' := by
  constructor
  · intro v v' rest rest'
    exact payloadOf_eq_iff
  · intro c c'
    exact SignedContent.payload_eq_iff

/-- What a key signs in the chat room: the displayed fields of a message of each variant. -/
inductive ChatBody where
  | aboutMe (name : String)
  | chat (fromName text : String)
  | leave
  deriving DecidableEq

/-- The payload of a message with these fields. -/
def ChatBody.payload (topicId signerPk : FixedBytes 32) (nonce : FixedBytes 16) :
    ChatBody → List UInt8
  | .aboutMe name => aboutMePayload topicId signerPk nonce name
  | .chat _ text => chatPayload topicId signerPk nonce text
  | .leave => leavePayload topicId signerPk nonce

/-- The part of a message that is signed: the display name of `Chat` is not. -/
def ChatBody.signed : ChatBody → SignedContent
  | .aboutMe name => .aboutMe name
  | .chat _ text => .chat text
  | .leave => .leave

theorem ChatBody.payload_eq {topicId signerPk : FixedBytes 32} {nonce : FixedBytes 16}
    (body : ChatBody) :
    body.payload topicId signerPk nonce = body.signed.payload topicId signerPk nonce := by
  cases body <;> rfl

section

variable {topicId topicId' signerPk signerPk' : FixedBytes 32} {nonce nonce' : FixedBytes 16}
  {body : ChatBody}

/-- **What an `AboutMe` payload determines**: topic, signer, nonce, variant and name. -/
theorem payload_eq_aboutMe {name : String}
    (h : body.payload topicId signerPk nonce = aboutMePayload topicId' signerPk' nonce' name) :
    topicId = topicId' ∧ signerPk = signerPk' ∧ nonce = nonce' ∧ body = .aboutMe name := by
  have hsigned : body.signed.payload topicId signerPk nonce =
      (SignedContent.aboutMe name).payload topicId' signerPk' nonce' := body.payload_eq.symm.trans h
  obtain ⟨hcontent, htopic, hsigner, hnonce⟩ := SignedContent.payload_eq_iff.mp hsigned
  refine ⟨htopic, hsigner, hnonce, ?_⟩
  cases body with
  | aboutMe name' => rw [SignedContent.aboutMe.inj hcontent]
  | chat fromName text => cases hcontent
  | leave => cases hcontent

/-- **What a `Chat` payload determines**: topic, signer, nonce, variant and text, but not the
display name. -/
theorem payload_eq_chat {text : String}
    (h : body.payload topicId signerPk nonce = chatPayload topicId' signerPk' nonce' text) :
    topicId = topicId' ∧ signerPk = signerPk' ∧ nonce = nonce' ∧
      ∃ fromName, body = .chat fromName text := by
  have hsigned : body.signed.payload topicId signerPk nonce =
      (SignedContent.chat text).payload topicId' signerPk' nonce' := body.payload_eq.symm.trans h
  obtain ⟨hcontent, htopic, hsigner, hnonce⟩ := SignedContent.payload_eq_iff.mp hsigned
  refine ⟨htopic, hsigner, hnonce, ?_⟩
  cases body with
  | aboutMe name => cases hcontent
  | chat fromName text' => exact ⟨fromName, by rw [SignedContent.chat.inj hcontent]⟩
  | leave => cases hcontent

/-- **What a `Leave` payload determines**: topic, signer, nonce and variant. -/
theorem payload_eq_leave
    (h : body.payload topicId signerPk nonce = leavePayload topicId' signerPk' nonce') :
    topicId = topicId' ∧ signerPk = signerPk' ∧ nonce = nonce' ∧ body = .leave := by
  have hsigned : body.signed.payload topicId signerPk nonce =
      SignedContent.leave.payload topicId' signerPk' nonce' := body.payload_eq.symm.trans h
  obtain ⟨hcontent, htopic, hsigner, hnonce⟩ := SignedContent.payload_eq_iff.mp hsigned
  refine ⟨htopic, hsigner, hnonce, ?_⟩
  cases body with
  | aboutMe name => cases hcontent
  | chat fromName text => cases hcontent
  | leave => rfl

end

/-! ## Keys and signatures -/

variable [ChatLibraries]

/-- `signer_pk_bytes`. -/
def signerPkBytes (signer : String) : Option (FixedBytes 32) :=
  ChatLibraries.parsePublicKey signer

/-- `verify_msg`. -/
def verifyMsg (endpoint : String) (msg sigBytes : List UInt8) : Bool :=
  match ChatLibraries.parsePublicKey endpoint with
  | none => false
  | some pk =>
    match FixedBytes.ofList? 64 sigBytes with
    | none => false
    | some sig => ChatLibraries.verify pk msg sig

theorem verifyMsg_eq_true {endpoint : String} {msg sigBytes : List UInt8} {pk : FixedBytes 32}
    (hkey : signerPkBytes endpoint = some pk) :
    verifyMsg endpoint msg sigBytes = true ↔
      ∃ sig : FixedBytes 64, sigBytes = sig.toList ∧ ChatLibraries.verify pk msg sig = true := by
  have hparse : ChatLibraries.parsePublicKey endpoint = some pk := hkey
  unfold verifyMsg
  rw [hparse]
  cases hsig : FixedBytes.ofList? 64 sigBytes with
  | none =>
    refine iff_of_false (by simp) ?_
    rintro ⟨sig, rfl, -⟩
    exact absurd (hsig.symm.trans (FixedBytes.ofList?_toList sig)) (by simp)
  | some sig =>
    obtain rfl := FixedBytes.ofList?_eq_some.mp hsig
    constructor
    · intro hverify
      exact ⟨sig, rfl, hverify⟩
    · rintro ⟨sig', heq, hverify⟩
      rwa [FixedBytes.ext heq]

/-- `decrypt_data`. -/
def decryptData (encrypted : List UInt8) (key : FixedBytes 32) : Except String (List UInt8) :=
  if encrypted.length < 29 then .error "ciphertext too short"
  else
    match encrypted.getD 0 0 with
    | 1 => ChatLibraries.aesGcmDecrypt key (slice encrypted 1 13) (encrypted.drop 13)
    | v => .error ("unknown encryption version: " ++ toString v.toNat)

/-- `truncate_chars`. -/
def truncateChars (s : String) (max : ℕ) : String :=
  if max < s.toList.length then String.ofList (s.toList.take max) else s

end IrohWebRtc
