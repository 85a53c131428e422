import IrohWebRtc.Chat.Room

/-!
# Who said what in a chat room

The frames of a room are chosen by an adversary that is a member of the room: it knows the keys of
the room, so a frame is any byte string.  What it cannot do is to make a signature of somebody
else's key; `Unforged` says so about the frames that are delivered.

A message that is displayed passed a signature check, and the payload that was checked determines
the variant, the topic, the signer and the fields it contains.  The display name of a chat message
is not among them.

Unforgeability is not an assumption on the library here.  It is a condition on the run: every
signature that is delivered in it, and that is good under the key of an honest signer, was made by
this signer.  So the results hold of any signature scheme, in the runs in which it was not broken.

* `authentic_iff`: what is displayed was signed, display names of chat messages apart, and these
  as well exactly when no chat message passes the checks under a name its signer did not use.
* `renamed_chat_displayed`: a chat message is displayed under a name that nobody signed.
-/

namespace IrohWebRtc

open Bytes Utf8

/-- A message that the holder of a key has signed for a topic. -/
structure SignedMessage where
  key : FixedBytes 32
  topicId : FixedBytes 32
  nonce : FixedBytes 16
  body : ChatBody
  deriving DecidableEq

/-- The bytes that were signed. -/
def SignedMessage.payload (m : SignedMessage) : List UInt8 :=
  m.body.payload m.topicId m.key m.nonce

namespace RoomTask

section

variable [ChatLibraries]

/-- **Ed25519 is unforgeable.**  Whenever the signature in a delivered frame is good, the holder of
the key has signed a message with the payload that was checked. -/
def Unforged (signed : SignedMessage → Prop) (keys : RoomKeys) (inputs : List RoomInput) : Prop :=
  ∀ content wire signer signerPk nonce sig, .received content ∈ inputs →
    keys.wireOf content = some wire → wire.credentials = some (signer, nonce, sig) →
      signerPkBytes signer = some signerPk →
        verifyMsg signer (wire.payload keys.topicId signerPk) sig = true →
          ∃ m, signed m ∧ m.key = signerPk ∧ m.payload = wire.payload keys.topicId signerPk

/-- The signer of a displayed event has signed a message with this body for the room. -/
def SignedBody (signed : SignedMessage → Prop) (keys : RoomKeys) (endpoint : String)
    (body : ChatBody) : Prop :=
  ∃ m, signed m ∧ signerPkBytes endpoint = some m.key ∧ m.topicId = keys.topicId ∧ m.body = body

/-- Everything an event displays occurred in one message of its variant that the signer has signed
for the room. -/
def Authentic (signed : SignedMessage → Prop) (keys : RoomKeys) : ChatGossipEvent → Prop
  | .identify _ endpoint name =>
    ∃ name', SignedBody signed keys endpoint (.aboutMe name') ∧
      name = truncateChars name' maxNameChars
  | .chat _ fromEndpoint fromName text =>
    ∃ fromName' text', SignedBody signed keys fromEndpoint (.chat fromName' text') ∧
      fromName = truncateChars fromName' maxNameChars ∧ text = truncateChars text' maxTextChars
  | .peerLeft _ endpoint => SignedBody signed keys endpoint .leave
  | _ => True

/-- The same, the display name of a chat message apart. -/
def AuthenticUpToName (signed : SignedMessage → Prop) (keys : RoomKeys) : ChatGossipEvent → Prop
  | .chat _ fromEndpoint _ text =>
    ∃ fromName' text', SignedBody signed keys fromEndpoint (.chat fromName' text') ∧
      text = truncateChars text' maxTextChars
  | event => Authentic signed keys event

/-- A chat message that passes the checks carries a display name under which its signer has signed
that text for the room. -/
def NameSigned (signed : SignedMessage → Prop) (task : RoomTask) (input : RoomInput) : Prop :=
  ∀ content signer fromName text nonce sig signerPk, input = .received content →
    task.ended = false → task.keys.wireOf content = some (.chat signer fromName text nonce sig) →
      task.Accepts (.chat signer fromName text nonce sig) signer signerPk nonce →
        ∃ fromName' text', SignedBody signed task.keys signer (.chat fromName' text') ∧
          truncateChars fromName maxNameChars = truncateChars fromName' maxNameChars ∧
          truncateChars text maxTextChars = truncateChars text' maxTextChars

variable {signed : SignedMessage → Prop} {task : RoomTask} {keys : RoomKeys}

/-! ## The keys of the room -/

theorem keys_step (task : RoomTask) (input : RoomInput) : (task.step input).1.keys = task.keys :=
  (task.step_frame input).2.1

theorem keys_run (task : RoomTask) (inputs : List RoomInput) :
    (task.run inputs).1.keys = task.keys := by
  induction inputs generalizing task with
  | nil => rfl
  | cons input inputs ih => exact (ih (task.step input).1).trans (keys_step task input)

/-! ## What the checks establish -/

/-- A message that passes the checks was signed: its variant and its signed fields are those of a
message of its signer for the room. -/
theorem Accepts.signedBody {wire : ChatWireMessage} {signer : String} {signerPk : FixedBytes 32}
    {nonce : FixedBytes 16} {content : List UInt8} {inputs : List RoomInput}
    (h : task.Accepts wire signer signerPk nonce) (hunforged : Unforged signed task.keys inputs)
    (hmem : .received content ∈ inputs) (hwire : task.keys.wireOf content = some wire) :
    match wire with
    | .aboutMe _ name _ _ => SignedBody signed task.keys signer (.aboutMe name)
    | .chat _ _ text _ _ => ∃ fromName, SignedBody signed task.keys signer (.chat fromName text)
    | .leave _ _ _ => SignedBody signed task.keys signer .leave
    | .sync | .unknown => True := by
  obtain ⟨hkey, ⟨sig, hcredentials, hverify⟩, -⟩ := h
  obtain ⟨m, hsigned, hmkey, hpayload⟩ :=
    hunforged content wire signer signerPk nonce sig hmem hwire hcredentials hkey hverify
  have hsigner : signerPkBytes signer = some m.key := by rw [hkey, hmkey]
  cases wire with
  | aboutMe signer' name nonce' sig' =>
    obtain ⟨htopic, -, -, hbody⟩ := payload_eq_aboutMe hpayload
    exact ⟨m, hsigned, hsigner, htopic, hbody⟩
  | chat signer' fromName text nonce' sig' =>
    obtain ⟨htopic, -, -, fromName', hbody⟩ := payload_eq_chat hpayload
    exact ⟨fromName', m, hsigned, hsigner, htopic, hbody⟩
  | leave signer' nonce' sig' =>
    obtain ⟨htopic, -, -, hbody⟩ := payload_eq_leave hpayload
    exact ⟨m, hsigned, hsigner, htopic, hbody⟩
  | sync | unknown => trivial

/-- An event is emitted by an input that displays a message, or it displays no message at all. -/
theorem step_event {input : RoomInput} {event : ChatGossipEvent}
    (hmem : event ∈ (task.step input).2) :
    (∃ content wire signer signerPk nonce, input = .received content ∧ task.ended = false ∧
        task.keys.wireOf content = some wire ∧ task.Accepts wire signer signerPk nonce ∧
          wire.display task.topic = some event) ∨
      ∀ signed keys, Authentic signed keys event := by
  unfold step at hmem
  split_ifs at hmem with hended
  · exact absurd hmem (by simp)
  · cases input with
    | neighborUp endpoint announceError =>
      refine Or.inr fun signed keys => ?_
      rcases List.mem_cons.mp hmem with rfl | hmem
      · trivial
      · obtain ⟨e, -, rfl⟩ := Option.map_eq_some_iff.mp (Option.mem_toList.mp hmem)
        trivial
    | received content =>
      rcases task.receive_cases content with
        ⟨wire, signer, signerPk, nonce, event', hwire, haccepts, hdisplay, heq⟩ | ⟨-, _, heq⟩
      · simp only [heq, List.mem_singleton] at hmem
        subst hmem
        exact Or.inl ⟨content, wire, signer, signerPk, nonce, rfl, by simpa using hended, hwire,
          haccepts, hdisplay⟩
      · simp only [heq] at hmem
        exact absurd hmem (by simp)
    | neighborDown endpoint | lagged | error message =>
      obtain rfl := List.mem_singleton.mp hmem
      exact Or.inr fun signed keys => trivial
    | announced => exact absurd hmem (by simp)

/-- What displaying an accepted message takes to be authentic. -/
theorem Accepts.authentic {wire : ChatWireMessage} {signer : String} {signerPk : FixedBytes 32}
    {nonce : FixedBytes 16} {content : List UInt8} {inputs : List RoomInput}
    {event : ChatGossipEvent} (h : task.Accepts wire signer signerPk nonce)
    (hunforged : Unforged signed task.keys inputs) (hmem : .received content ∈ inputs)
    (hwire : task.keys.wireOf content = some wire)
    (hdisplay : wire.display task.topic = some event) :
    AuthenticUpToName signed task.keys event ∧
      ((∀ signer' fromName text nonce' sig, wire ≠ .chat signer' fromName text nonce' sig) →
        Authentic signed task.keys event) := by
  have hbody := h.signedBody hunforged hmem hwire
  obtain ⟨-, ⟨sig, hcredentials, -⟩, -⟩ := h
  cases wire with
  | aboutMe signer' name nonce' sig' =>
    obtain ⟨rfl, -, -⟩ := by simpa [ChatWireMessage.credentials] using hcredentials
    obtain rfl := Option.some.inj hdisplay
    exact ⟨⟨name, hbody, rfl⟩, fun _ => ⟨name, hbody, rfl⟩⟩
  | chat signer' fromName text nonce' sig' =>
    obtain ⟨rfl, -, -⟩ := by simpa [ChatWireMessage.credentials] using hcredentials
    obtain rfl := Option.some.inj hdisplay
    obtain ⟨fromName', hbody⟩ := hbody
    exact ⟨⟨fromName', text, hbody, rfl⟩, fun hno => absurd rfl (hno _ _ _ _ _)⟩
  | leave signer' nonce' sig' =>
    obtain ⟨rfl, -, -⟩ := by simpa [ChatWireMessage.credentials] using hcredentials
    obtain rfl := Option.some.inj hdisplay
    exact ⟨hbody, fun _ => hbody⟩
  | sync | unknown => exact absurd hdisplay (by simp [ChatWireMessage.display])

/-! ## Runs -/

theorem authenticUpToName_of_authentic {event : ChatGossipEvent}
    (h : Authentic signed keys event) : AuthenticUpToName signed keys event := by
  cases event with
  | chat topic fromEndpoint fromName text =>
    obtain ⟨fromName', text', hbody, -, htext⟩ := h
    exact ⟨fromName', text', hbody, htext⟩
  | _ => exact h

/-- **Chat authenticity.**  In every run of a room whose frames carry no forged signature, the
signer, the text and the `AboutMe` name of every event occurred together in one message of its
variant that the signer has signed for the room.  The display names of chat messages did as well if
and only if no chat message passes the checks under a name its signer has not used for its text. -/
theorem authentic_iff (topic : String) (keys : RoomKeys) (signed : SignedMessage → Prop)
    (inputs : List RoomInput) (hunforged : Unforged signed keys inputs) :
    (∀ event ∈ ((new topic keys).run inputs).2, AuthenticUpToName signed keys event) ∧
      ((∀ event ∈ ((new topic keys).run inputs).2, Authentic signed keys event) ↔
        ∀ pre input post, inputs = pre ++ input :: post →
          NameSigned signed ((new topic keys).run pre).1 input) := by
  have hkeys : ∀ pre, ((new topic keys).run pre).1.keys = keys := fun pre => keys_run _ pre
  refine ⟨fun event hevent => ?_, fun h pre input post hinputs => ?_, fun h event hevent => ?_⟩
  · obtain ⟨pre, input, post, rfl, hmem⟩ := mem_run_iff.mp hevent
    rcases step_event hmem with
      ⟨content, wire, signer, signerPk, nonce, rfl, -, hwire, haccepts, hdisplay⟩ | hother
    · rw [← hkeys pre] at hunforged ⊢
      exact (haccepts.authentic hunforged (by simp) hwire hdisplay).1
    · exact authenticUpToName_of_authentic (hother signed keys)
  · rintro content signer fromName text nonce sig signerPk rfl hended hwire haccepts
    -- the message is displayed, so its event is authentic
    rcases ((new topic keys).run pre).1.receive_cases content with
      ⟨wire, signer', signerPk', nonce', event, hwire', haccepts', hdisplay, heq⟩ | ⟨hno, -⟩
    · obtain rfl := Option.some.inj (hwire.symm.trans hwire')
      obtain rfl := Option.some.inj hdisplay
      have hauthentic := h _ (mem_run_iff.mpr ⟨pre, _, post, hinputs, by
        rw [step_received hended, heq]
        exact List.mem_singleton_self _⟩)
      obtain ⟨fromName', text', hbody, hname, htext⟩ := hauthentic
      rw [hkeys pre]
      exact ⟨fromName', text', hbody, hname, htext⟩
    · exact absurd haccepts (hno _ _ _ _ hwire)
  · obtain ⟨pre, input, post, rfl, hmem⟩ := mem_run_iff.mp hevent
    rcases step_event hmem with
      ⟨content, wire, signer, signerPk, nonce, rfl, hended, hwire, haccepts, hdisplay⟩ | hother
    · by_cases hchat : ∃ signer' fromName text nonce' sig,
          wire = .chat signer' fromName text nonce' sig
      · obtain ⟨signer', fromName, text, nonce', sig, rfl⟩ := hchat
        obtain ⟨sig', hcredentials, -⟩ := haccepts.signature
        obtain ⟨rfl, rfl, rfl⟩ := by simpa [ChatWireMessage.credentials] using hcredentials
        obtain rfl := Option.some.inj hdisplay
        obtain ⟨fromName', text', hbody, hname, htext⟩ :=
          h pre _ post rfl content signer' fromName text nonce' sig signerPk rfl hended hwire
            haccepts
        rw [hkeys pre] at hbody
        exact ⟨fromName', text', hbody, hname, htext⟩
      · rw [← hkeys pre] at hunforged ⊢
        exact (haccepts.authentic hunforged (by simp) hwire hdisplay).2
          fun signer' fromName text nonce' sig heq =>
            hchat ⟨signer', fromName, text, nonce', sig, heq⟩
    · exact hother signed keys

end

/-! ## Concrete runs -/

section Sample

open scoped Sample
open Sample

/-- The one message that was signed. -/
def sampleSigned (m : SignedMessage) : Prop :=
  m = ⟨carol, roomKeys.topicId, hiNonce, .chat "alice" "hi"⟩

/-- The only good signature is the one of that message. -/
theorem unforged_sample (inputs : List RoomInput) : Unforged sampleSigned roomKeys inputs := by
  rintro content wire signer signerPk nonce sig - - - hkey hverify
  obtain ⟨sig', -, hgood⟩ := (verifyMsg_eq_true hkey).mp hverify
  simp only [ChatLibraries.verify, Bool.and_eq_true, decide_eq_true_eq] at hgood
  obtain ⟨⟨hcarol, hpayload⟩, -⟩ := hgood
  exact ⟨_, rfl, hcarol.symm, hpayload.symm⟩

/-- What a run over one frame with the signed text displays. -/
theorem run_frame {content : List UInt8} {fromName : String}
    (hwire : roomKeys.wireOf content = some (hiWire carolHex fromName)) :
    ((new "room" roomKeys).run [.received content]).2 =
      [.chat "room" carolHex (truncateChars fromName maxNameChars)
        (truncateChars "hi" maxTextChars)] := by
  have hcarol : signerPkBytes carolHex = some carol := by decide
  have hended : (new "room" roomKeys).ended = false := rfl
  have haccepts :
      (new "room" roomKeys).Accepts (hiWire carolHex fromName) carolHex carol hiNonce := by
    refine ⟨hcarol, ⟨hiSig.toList, rfl, ?_⟩, by simp [new, ReplayLru.seen]⟩
    refine (verifyMsg_eq_true hcarol).mpr ⟨hiSig, rfl, ?_⟩
    simp [ChatLibraries.verify, hiWire, ChatWireMessage.payload, new]
  rcases (new "room" roomKeys).receive_cases content with
    ⟨wire, signer, signerPk, nonce, event, hwire', -, hdisplay, heq⟩ | ⟨hno, -⟩
  · obtain rfl := Option.some.inj (hwire.symm.trans hwire')
    obtain rfl := Option.some.inj hdisplay
    simp only [run, step_received hended, heq, List.append_nil]
    rfl
  · exact absurd haccepts (hno _ _ _ _ hwire)

theorem authentic_iff_sample :
    .chat "room" carolHex "alice" "hi" ∈ ((new "room" roomKeys).run [.received honestFrame]).2 ∧
      AuthenticUpToName sampleSigned roomKeys (.chat "room" carolHex "alice" "hi") := by
  have hdisplayed : .chat "room" carolHex "alice" "hi" ∈
      ((new "room" roomKeys).run [.received honestFrame]).2 := by
    rw [run_frame wireOf_honestFrame]
    decide
  refine ⟨hdisplayed, ?_⟩
  exact (authentic_iff "room" roomKeys sampleSigned [.received honestFrame] (unforged_sample _)).1
    _ hdisplayed

/-- **A renamed message is displayed.**  A member of the room changes the display name of a message
it has seen, and the message is displayed under a name that its signer has never used. -/
theorem renamed_chat_displayed :
    Unforged sampleSigned roomKeys [.received renamedFrame] ∧
      .chat "room" carolHex "mallory" "hi" ∈
        ((new "room" roomKeys).run [.received renamedFrame]).2 ∧
      ¬ Authentic sampleSigned roomKeys (.chat "room" carolHex "mallory" "hi") := by
  refine ⟨unforged_sample _, ?_, ?_⟩
  · rw [run_frame wireOf_renamedFrame]
    decide
  · rintro ⟨fromName', text', ⟨m, rfl, -, -, hbody⟩, hname, -⟩
    obtain ⟨rfl, rfl⟩ := ChatBody.chat.inj hbody
    exact absurd hname (by decide)

end Sample

end RoomTask

end IrohWebRtc
