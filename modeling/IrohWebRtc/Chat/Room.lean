import IrohWebRtc.Chat.Wire
import IrohWebRtc.Lib.Table

/-!
# The receiver of a chat room

The task that `handle_command` starts for a joined topic in `protocol.rs`: it turns the events of
the gossip subscription into events for the user interface.  A received frame is decrypted and
decoded; an authenticated message is checked against its signature and against the nonces of its
signer seen before, and then displayed.

A frame that fails any of the checks is dropped without a word, so the sender of a frame learns
nothing and the user sees nothing.  The checks come in an order that matters to the memory of the
nonces: only a message whose signature is good is remembered, since anybody in the room could fill
the memory of somebody else otherwise.

The messages that the task itself broadcasts are not followed: an announcement may fail, which the
input says, and the announcement after a `Sync` ends with an input of its own.

* `receive_cases`: what a frame that is displayed has passed.
* `mem_run_iff`: an event of a run was emitted by one of its inputs.
-/

namespace IrohWebRtc

open Bytes Utf8

/-- `ChatGossipEvent`. -/
inductive ChatGossipEvent where
  | joined (topic : String)
  | neighborUp (topic endpoint : String)
  | neighborDown (topic endpoint : String)
  | chat (topic fromEndpoint fromName text : String)
  | system (topic text : String)
  | identify (topic endpoint name : String)
  | peerLeft (topic endpoint : String)
  deriving DecidableEq, Repr

/-- `RoomKeys`. -/
structure RoomKeys where
  topicId : FixedBytes 32
  aesKey : FixedBytes 32
  deriving DecidableEq

/-! ## Nonces seen before -/

def replayCapPerSigner : ℕ := 256

/-- The nonces of each signer, oldest first.  A signer is the text it was named by. -/
structure ReplayLru where
  map : Table String (List (FixedBytes 16))

namespace ReplayLru

/-- The nonces remembered for a signer. -/
def seen (lru : ReplayLru) (signer : String) : List (FixedBytes 16) :=
  (lru.map.lookup signer).getD []

/-- `pop_front` when the queue is full, then `push_back`. -/
def push (entry : List (FixedBytes 16)) (nonce : FixedBytes 16) : List (FixedBytes 16) :=
  (if replayCapPerSigner ≤ entry.length then entry.tail else entry) ++ [nonce]

def checkAndInsert (lru : ReplayLru) (signer : String) (nonce : FixedBytes 16) :
    Bool × ReplayLru :=
  if (lru.seen signer).contains nonce then (false, lru)
  else (true, ⟨lru.map.insert signer (push (lru.seen signer) nonce)⟩)

theorem seen_insert (lru : ReplayLru) (signer signer' : String) (entry : List (FixedBytes 16)) :
    (⟨lru.map.insert signer entry⟩ : ReplayLru).seen signer' =
      if signer' = signer then entry else lru.seen signer' := by
  unfold seen
  rw [Table.lookup_insert_eq]
  split_ifs <;> rfl

end ReplayLru

/-! ## The task -/

/-- The state of the receiver task. -/
structure RoomTask where
  topic : String
  keys : RoomKeys
  replay : ReplayLru
  /-- An announcement after a `Sync` is under way. -/
  pendingAnnounce : Bool
  ended : Bool

/-- What the task receives. -/
inductive RoomInput where
  /-- `NeighborUp`, and the error of the announcement if it fails. -/
  | neighborUp (endpoint : String) (announceError : Option String)
  | neighborDown (endpoint : String)
  | received (content : List UInt8)
  | lagged
  | error (message : String)
  /-- The announcement after a `Sync` was sent. -/
  | announced

/-- The gossip stream has failed. -/
def RoomInput.isError : RoomInput → Bool
  | .error _ => true
  | _ => false

section Message

variable [ChatLibraries]

/-- The message of a frame, when it is short enough, decrypts and decodes. -/
def RoomKeys.wireOf (keys : RoomKeys) (content : List UInt8) : Option ChatWireMessage :=
  if maxWireBytes < content.length then none
  else
    match decryptData content keys.aesKey with
    | .error _ => none
    | .ok plaintext => ChatLibraries.fromSlice plaintext

end Message

namespace ChatWireMessage

/-- The signer, the nonce and the signature of an authenticated message. -/
def credentials : ChatWireMessage → Option (String × FixedBytes 16 × List UInt8)
  | .aboutMe signer _ nonce sig | .chat signer _ _ nonce sig | .leave signer nonce sig =>
    some (signer, nonce, sig)
  | .sync | .unknown => none

/-- The payload the receiver checks the signature against. -/
def payload (topicId signerPk : FixedBytes 32) : ChatWireMessage → List UInt8
  | .aboutMe _ name nonce _ => aboutMePayload topicId signerPk nonce name
  | .chat _ _ text nonce _ => chatPayload topicId signerPk nonce text
  | .leave _ nonce _ => leavePayload topicId signerPk nonce
  | .sync | .unknown => []

/-- The event an authenticated message is displayed as. -/
def display (topic : String) : ChatWireMessage → Option ChatGossipEvent
  | .aboutMe signer name _ _ => some (.identify topic signer (truncateChars name maxNameChars))
  | .chat signer fromName text _ _ =>
    some (.chat topic signer (truncateChars fromName maxNameChars)
      (truncateChars text maxTextChars))
  | .leave signer _ _ => some (.peerLeft topic signer)
  | .sync | .unknown => none

end ChatWireMessage

namespace RoomTask

/-- The task of a topic that was just joined. -/
def new (topic : String) (keys : RoomKeys) : RoomTask where
  topic := topic
  keys := keys
  replay := ⟨∅⟩
  pendingAnnounce := false
  ended := false

variable [ChatLibraries]

/-- The checks on an authenticated message: the signer is a key, the signature is good, and the
nonce is new. -/
def accept (task : RoomTask) (signer : String) (nonce : FixedBytes 16) (sig : List UInt8)
    (payload : FixedBytes 32 → List UInt8) : Option RoomTask :=
  match signerPkBytes signer with
  | none => none
  | some signerPk =>
    if !verifyMsg signer (payload signerPk) sig then none
    else
      match task.replay.checkAndInsert signer nonce with
      | (false, _) => none
      | (true, replay) => some { task with replay := replay }

/-- The arm for `GossipEvent::Received`. -/
def receive (task : RoomTask) (content : List UInt8) : RoomTask × List ChatGossipEvent :=
  match task.keys.wireOf content with
  | some (.aboutMe signer name nonce sig) =>
    match task.accept signer nonce sig
      (aboutMePayload task.keys.topicId · nonce name) with
    | none => (task, [])
    | some task => (task, [.identify task.topic signer (truncateChars name maxNameChars)])
  | some (.chat signer fromName text nonce sig) =>
    match task.accept signer nonce sig (chatPayload task.keys.topicId · nonce text) with
    | none => (task, [])
    | some task =>
      (task, [.chat task.topic signer (truncateChars fromName maxNameChars)
        (truncateChars text maxTextChars)])
  | some (.leave signer nonce sig) =>
    match task.accept signer nonce sig (leavePayload task.keys.topicId · nonce) with
    | none => (task, [])
    | some task => (task, [.peerLeft task.topic signer])
  | some .sync => ({ task with pendingAnnounce := true }, [])
  | some .unknown | none => (task, [])

/-- One turn of the loop, and the events it emits. -/
def step (task : RoomTask) (input : RoomInput) : RoomTask × List ChatGossipEvent :=
  if task.ended then (task, [])
  else
    match input with
    | .neighborUp endpoint announceError =>
      (task, .neighborUp task.topic endpoint ::
        (announceError.map fun e => .system task.topic ("failed to announce: " ++ e)).toList)
    | .neighborDown endpoint => (task, [.neighborDown task.topic endpoint])
    | .received content => task.receive content
    | .lagged => (task, [.system task.topic "missed gossip messages"])
    | .error message =>
      ({ task with ended := true }, [.system task.topic ("gossip error: " ++ message)])
    | .announced => ({ task with pendingAnnounce := false }, [])

/-- The task after some inputs, and all the events it has emitted. -/
def run (task : RoomTask) : List RoomInput → RoomTask × List ChatGossipEvent
  | [] => (task, [])
  | input :: inputs =>
    let (next, events) := task.step input
    let (last, later) := next.run inputs
    (last, events ++ later)

theorem step_received {task : RoomTask} (hended : task.ended = false) (content : List UInt8) :
    task.step (.received content) = task.receive content := by
  unfold step
  rw [if_neg (by simp [hended])]

/-! ## What a displayed frame has passed -/

/-- The task after a nonce of a signer was remembered. -/
def remember (task : RoomTask) (signer : String) (nonce : FixedBytes 16) : RoomTask :=
  { task with
    replay := ⟨task.replay.map.insert signer (ReplayLru.push (task.replay.seen signer) nonce)⟩ }

variable {task task' : RoomTask}

/-- A message that passes all checks in the state of a task. -/
structure Accepts (task : RoomTask) (wire : ChatWireMessage) (signer : String)
    (signerPk : FixedBytes 32) (nonce : FixedBytes 16) : Prop where
  key : signerPkBytes signer = some signerPk
  signature : ∃ sig, wire.credentials = some (signer, nonce, sig) ∧
    verifyMsg signer (wire.payload task.keys.topicId signerPk) sig = true
  fresh : nonce ∉ task.replay.seen signer

/-- The checks on an authenticated message. -/
theorem accept_cases {wire : ChatWireMessage} {signer : String} {nonce : FixedBytes 16}
    {sig : List UInt8} (hcredentials : wire.credentials = some (signer, nonce, sig)) :
    (∃ signerPk, task.Accepts wire signer signerPk nonce ∧
        task.accept signer nonce sig (fun pk => wire.payload task.keys.topicId pk) =
          some (task.remember signer nonce)) ∨
      (∀ signer' signerPk nonce', ¬ task.Accepts wire signer' signerPk nonce') ∧
        task.accept signer nonce sig (fun pk => wire.payload task.keys.topicId pk) = none := by
  have hsame : ∀ {signer' signerPk nonce'}, task.Accepts wire signer' signerPk nonce' →
      signer' = signer ∧ nonce' = nonce ∧
        verifyMsg signer (wire.payload task.keys.topicId signerPk) sig = true := by
    rintro signer' signerPk nonce' ⟨-, ⟨sig', hcredentials', hverify⟩, -⟩
    obtain ⟨hsigner, hrest⟩ := Prod.mk.inj (Option.some.inj (hcredentials.symm.trans hcredentials'))
    obtain ⟨hnonce, hsig⟩ := Prod.mk.inj hrest
    subst hsigner hnonce hsig
    exact ⟨rfl, rfl, hverify⟩
  unfold accept
  cases hkey : signerPkBytes signer with
  | none =>
    refine Or.inr ⟨fun signer' signerPk nonce' h => ?_, rfl⟩
    obtain ⟨rfl, -, -⟩ := hsame h
    exact absurd (hkey.symm.trans h.key) (by simp)
  | some signerPk =>
    cases hverify : verifyMsg signer (wire.payload task.keys.topicId signerPk) sig with
    | false =>
      refine Or.inr ⟨fun signer' signerPk' nonce' h => ?_, by simp [hverify]⟩
      obtain ⟨rfl, -, hverify'⟩ := hsame h
      obtain rfl := Option.some.inj (hkey.symm.trans h.key)
      exact absurd (hverify.symm.trans hverify') (by simp)
    | true =>
      by_cases hseen : nonce ∈ task.replay.seen signer
      · refine Or.inr ⟨fun signer' signerPk' nonce' h => ?_, ?_⟩
        · obtain ⟨rfl, rfl, -⟩ := hsame h
          exact h.fresh hseen
        · simp [hverify, ReplayLru.checkAndInsert, hseen]
      · refine Or.inl ⟨signerPk, ⟨hkey, ⟨sig, hcredentials, hverify⟩, hseen⟩, ?_⟩
        simp [hverify, ReplayLru.checkAndInsert, hseen, remember]

theorem topic_of_accept {signer : String} {nonce : FixedBytes 16} {sig : List UInt8}
    {payload : FixedBytes 32 → List UInt8}
    (h : task.accept signer nonce sig payload = some task') : task'.topic = task.topic := by
  unfold accept at h
  split at h
  · exact absurd h (by simp)
  · split at h
    · exact absurd h (by simp)
    · split at h
      · exact absurd h (by simp)
      · obtain rfl := Option.some.inj h
        rfl

/-- The three authenticated variants go through the same checks. -/
theorem receive_authenticated {content : List UInt8} {wire : ChatWireMessage} {signer : String}
    {nonce : FixedBytes 16} {sig : List UInt8} (hwire : task.keys.wireOf content = some wire)
    (hcredentials : wire.credentials = some (signer, nonce, sig)) :
    ∃ event, wire.display task.topic = some event ∧
      task.receive content =
        match task.accept signer nonce sig (fun pk => wire.payload task.keys.topicId pk) with
        | none => (task, [])
        | some task' => (task', [event]) := by
  unfold receive
  rw [hwire]
  cases wire with
  | aboutMe _ name _ _ | chat _ fromName text _ _ | leave _ _ _ =>
    obtain ⟨rfl, rfl, rfl⟩ := by simpa [ChatWireMessage.credentials] using hcredentials
    refine ⟨_, rfl, ?_⟩
    simp only [ChatWireMessage.payload]
    split
    · rfl
    · rename_i task' hsome
      rw [topic_of_accept hsome]
  | sync | unknown => exact absurd hcredentials (by simp [ChatWireMessage.credentials])

/-- **A frame is displayed when its message passes all checks**, and is dropped otherwise. -/
theorem receive_cases (task : RoomTask) (content : List UInt8) :
    (∃ wire signer signerPk nonce event, task.keys.wireOf content = some wire ∧
        task.Accepts wire signer signerPk nonce ∧ wire.display task.topic = some event ∧
        task.receive content = (task.remember signer nonce, [event])) ∨
      (∀ wire signer signerPk nonce, task.keys.wireOf content = some wire →
          ¬ task.Accepts wire signer signerPk nonce) ∧
        ∃ pendingAnnounce, task.receive content =
          ({ task with pendingAnnounce := pendingAnnounce }, []) := by
  cases hwire : task.keys.wireOf content with
  | none =>
    refine Or.inr ⟨fun _ _ _ _ h => absurd h (by simp), task.pendingAnnounce, ?_⟩
    unfold receive
    rw [hwire]
  | some wire =>
    cases hcredentials : wire.credentials with
    | some credentials =>
      obtain ⟨signer, nonce, sig⟩ := credentials
      obtain ⟨event, hdisplay, hreceive⟩ := receive_authenticated hwire hcredentials
      rcases task.accept_cases hcredentials with ⟨signerPk, haccepts, heq⟩ | ⟨hno, heq⟩
      · rw [heq] at hreceive
        exact Or.inl ⟨wire, signer, signerPk, nonce, event, rfl, haccepts, hdisplay, hreceive⟩
      · rw [heq] at hreceive
        refine Or.inr ⟨?_, task.pendingAnnounce, hreceive⟩
        rintro wire' signer' signerPk nonce' ⟨⟩
        exact hno signer' signerPk nonce'
    | none =>
      have hno : ∀ wire' signer signerPk nonce, some wire = some wire' →
          ¬ task.Accepts wire' signer signerPk nonce := by
        rintro wire' signer signerPk nonce ⟨⟩ ⟨-, ⟨sig, hsome, -⟩, -⟩
        exact absurd (hcredentials.symm.trans hsome) (by simp)
      unfold receive
      rw [hwire]
      cases wire with
      | aboutMe _ _ _ _ | chat _ _ _ _ _ | leave _ _ _ =>
        exact absurd hcredentials (by simp [ChatWireMessage.credentials])
      | sync => exact Or.inr ⟨hno, true, rfl⟩
      | unknown => exact Or.inr ⟨hno, task.pendingAnnounce, rfl⟩

/-- A step changes neither the topic nor the keys, and ends the task at an error. -/
theorem step_frame (task : RoomTask) (input : RoomInput) :
    (task.step input).1.topic = task.topic ∧ (task.step input).1.keys = task.keys ∧
      (task.step input).1.ended = (task.ended || input.isError) := by
  unfold step
  split_ifs with hended
  · exact ⟨rfl, rfl, by simp [hended]⟩
  · cases input with
    | received content =>
      rcases task.receive_cases content with ⟨_, _, _, _, _, -, -, -, heq⟩ | ⟨-, _, heq⟩
      · simp only [heq]
        exact ⟨rfl, rfl, by simp [remember, RoomInput.isError]⟩
      · simp only [heq]
        exact ⟨trivial, trivial, by simp [RoomInput.isError]⟩
    | _ => exact ⟨rfl, rfl, by simp [RoomInput.isError]⟩

/-! ## Runs -/

/-- An event of a run was emitted by one of its inputs. -/
theorem mem_run_iff {inputs : List RoomInput} {event : ChatGossipEvent} :
    event ∈ (task.run inputs).2 ↔
      ∃ pre input post, inputs = pre ++ input :: post ∧
        event ∈ ((task.run pre).1.step input).2 := by
  induction inputs generalizing task with
  | nil => simp [run]
  | cons input inputs ih =>
    simp only [run, List.mem_append, ih]
    constructor
    · rintro (hmem | ⟨pre, next, post, rfl, hmem⟩)
      · exact ⟨[], input, inputs, rfl, hmem⟩
      · exact ⟨input :: pre, next, post, rfl, hmem⟩
    · rintro ⟨pre, next, post, heq, hmem⟩
      cases pre with
      | nil =>
        obtain ⟨rfl, rfl⟩ := List.cons.inj heq
        exact Or.inl hmem
      | cons first pre =>
        obtain ⟨rfl, rfl⟩ := List.cons.inj heq
        exact Or.inr ⟨pre, next, post, rfl, hmem⟩

end RoomTask

/-! ## A room

A room with the keys of the secret `[7; 32]`, and three frames for it with one signature: a chat
message of the key whose secret scalar is one, the same with another display name, and the same with
the other spelling of the signer. -/

namespace Sample

def hexDigit (c : UInt8) : UInt8 := if c < 0x3a then c - 0x30 else c - 0x57

def hexPairs : List UInt8 → List UInt8
  | a :: b :: rest => (16 * hexDigit a + hexDigit b) :: hexPairs rest
  | _ => []

def hexBytes (s : String) : List UInt8 := hexPairs (utf8Bytes s)

def roomKeys : RoomKeys where
  topicId :=
    ⟨hexBytes "5a5207b966a3fa4adae2bc7fcf854d42ee49e90fecdb593a5f9109497a650562", by decide⟩
  aesKey :=
    ⟨hexBytes "8049e7bb7c93a9c3bf3a2bd780d3fe655db2d765c46ffaca0f6d06bccedd6ab7", by decide⟩

theorem length_basePoint : (0x58 :: List.replicate 31 0x66 : List UInt8).length = 32 := rfl

/-- The base point of the curve, as a key. -/
def carol : FixedBytes 32 := ⟨0x58 :: List.replicate 31 0x66, length_basePoint⟩

def carolHex : String := "5866666666666666666666666666666666666666666666666666666666666666"

def carolBase32 : String := "lbtgmztgmztgmztgmztgmztgmztgmztgmztgmztgmztgmztgmzta"

def hiNonce : FixedBytes 16 := .replicate 16 1

/-- The signature of the text `hi` in this room, under that nonce. -/
def hiSig : FixedBytes 64 :=
  ⟨carol.toList ++
    hexBytes "90fa1a089db8586c3d1a502d070f2f728dcbd9e60a031eebf173b788e293ce0b", by decide⟩

def hiWire (signer fromName : String) : ChatWireMessage :=
  .chat signer fromName "hi" hiNonce hiSig.toList

def hiJson (signer fromName : String) : List UInt8 :=
  utf8Bytes ("\x7b\"type\":\"chat\",\"signer\":\"" ++ signer ++
    "\",\"from_name\":\"" ++ fromName ++
    "\",\"text\":\"hi\",\"nonce\":\"AQEBAQEBAQEBAQEBAQEBAQ==\",\"sig\":[88," ++
    String.join (List.replicate 31 "102,") ++
    "144,250,26,8,157,184,88,108,61,26,80,45,7,15,47,114,141,203,217,230,10,3,30,235,241,115," ++
    "183,136,226,147,206,11]\x7d")

def honestCiphertext : List UInt8 :=
  hexBytes (
    "f1b64726de3d1efcca7ef0ee6f3f6fae08bed0b794f903bfa06ba704a2ca0eda39787ae3346e2b5e7ac86a55" ++
    "08d4d2188fe493126374169452fe72e6d441166e660eaa0470fc1a52c39942e0b8224906ae7724111baa29d4" ++
    "038e01e058ee9bf06c0decf0120bf1ea06ce1dda3d19a18c9f9fa9678f45316e425566ffa5ee4f4c3a17fa4f" ++
    "b47a0d773838b1ded79e343b9adff6072e004610a3126aec1314531059c0d1ed8063565fab52d68073ed47a8" ++
    "e20319b5d56204b32dd83b5e175476db565ce5575dc5fae5e4979abad3224454d58a0e9a4895e14e8d87edbc" ++
    "be5851757967212b1887422650d67cf5116f39ab87b377a724ef41c867b838cd91542844a0df2fdd97b6910a" ++
    "e6479854f604dba6e8b85eeaece6e50a92d5084397d25ecfee3c6f5369df0b0233506a1aa784695e3a9d11ca" ++
    "5e1099276695e956cfdce609b494e877f0d06e245ec3d78fcd84e7711820f941495c95a6ba657318b52c6730" ++
    "8827a77268a03320a0706c771580176a8713d4dde7d09ae0e497e45f86317ef1520cbe64cfcd88870b28e87d" ++
    "c7f389d3e2d48a4f0180a463836495952abd3bc445ec2b93")

def renamedCiphertext : List UInt8 :=
  hexBytes (
    "669798f62a9df6ad0e896e95cfa70465d32d44a5362c0da59aa58ec538ad3b912fe16aee1eda43ce26824c10" ++
    "503e987bfecf61a7fdf626cfdd1b5f55ac6c18ce7262b5b932ee41c492fc192e6adca10e239b3225a88f90db" ++
    "35dbbd8a7828d7c83add1161ce96b41537d432f57ee2f258c27a981f7f3198254bf7d580879bf0cec7f7686e" ++
    "c6a85d63bf63f77d42580bb8570cc27fff702f201094ab0052a6455c287052ce1bef3c596f3d2e6d3e93133a" ++
    "917f600eac0d97f7ae72f2a44559de884b472cf60aaac28fa11911bb24f5545f0187fbaf25bfb2ec46ecd504" ++
    "fbb3e972804a64c91e3a1eaa4114ee8521179cc40f06dd27a1e87bda194462fc539327a10e85fc9a82b1224d" ++
    "fba47c449e7c75fe173d69e267605dac2482a3fe8ad2b2e0e5a058317a5cc9f7eae2fef3d3c05b2bdb319bf8" ++
    "afb85d0ad58dd24c028dc8aa61700b5cfc547c142bba91b01ede66aa5794eed17237c9768efd3a301f0ef060" ++
    "618fabad535c26b754364f893f3e153995a0bb720a6292e2dbfa2e58c11c60bd07c59ee0ab163b96af2f8257" ++
    "c94560112e0b6a9a26c19428e61b0d283ed864db5e5ed8335938")

def respelledCiphertext : List UInt8 :=
  hexBytes (
    "31b67461d5758d772bdd38729978f7dfa52d78bf236083d4ad53b019d8fc7b7e8627fc0c35f42dfdec248d0b" ++
    "f7f7681a6467547da92ed69fe4914c2d09ca8e155f95c502dfee5d6c7216e73503e778e5b487daea33327a50" ++
    "9e688810f2415c76517443197d7688ae8ea7033241198a7f4fa55488652fdb37f32fb9caad5ac51e13f0532b" ++
    "5e7de9b624fd391b74a934b8a236db716e12b86b0ff1d06ad020bfa7d704ace563fa7fe8d17290b7238ed3ef" ++
    "2c463769ce1ba72baae87d88de0c1a8a101eb0061759ae63d7e81f6a2a2da0b96f3708151967bbf75c6ad871" ++
    "b37dcdc2d1f3a0c7e7af1d730597b6ede4bd5447ce851b8782ce9d2116e7fff4cfbe194a1300701cbe0add71" ++
    "0cfd41af99669e7f374ca461fc2497eecc2efd18b627face1abaf123f74a976d0408ff9924212bd4d9fdffd9" ++
    "2ee856185a3a6e93e7ee1e984dc25a0215de553dd487def32c48b24da38727ff38a49397267c1542a7fad8a1" ++
    "c81788758f0b47c140feeb34a5afaa9dd9230ccce5b027762a4fdf446243d2710a2c07410ba67a98866a4d98" ++
    "1a807a2d13417cfaaae55442")

/-- The libraries on these frames. -/
scoped instance : ChatLibraries where
  parsePublicKey s := if s = carolHex ∨ s = carolBase32 then some carol else none
  verify pk msg sig :=
    pk = carol && msg = chatPayload roomKeys.topicId carol hiNonce "hi" && sig = hiSig
  aesGcmDecrypt key iv ct :=
    if key ≠ roomKeys.aesKey then .error "OperationError"
    else if iv = List.replicate 12 1 ∧ ct = honestCiphertext then .ok (hiJson carolHex "alice")
    else if iv = List.replicate 12 2 ∧ ct = renamedCiphertext then .ok (hiJson carolHex "mallory")
    else if iv = List.replicate 12 3 ∧ ct = respelledCiphertext then
      .ok (hiJson carolBase32 "alice")
    else .error "OperationError"
  fromSlice bs :=
    if bs = hiJson carolHex "alice" then some (hiWire carolHex "alice")
    else if bs = hiJson carolHex "mallory" then some (hiWire carolHex "mallory")
    else if bs = hiJson carolBase32 "alice" then some (hiWire carolBase32 "alice")
    else none

/-- A frame: the version, the initialisation vector and the ciphertext. -/
def frameOf (iv : UInt8) (ciphertext : List UInt8) : List UInt8 :=
  1 :: (List.replicate 12 iv ++ ciphertext)

def honestFrame : List UInt8 := frameOf 1 honestCiphertext

def renamedFrame : List UInt8 := frameOf 2 renamedCiphertext

def respelledFrame : List UInt8 := frameOf 3 respelledCiphertext

set_option maxRecDepth 20000 in
theorem wireOf_honestFrame : roomKeys.wireOf honestFrame = some (hiWire carolHex "alice") := by
  decide +kernel

set_option maxRecDepth 20000 in
theorem wireOf_renamedFrame :
    roomKeys.wireOf renamedFrame = some (hiWire carolHex "mallory") := by
  decide +kernel

set_option maxRecDepth 20000 in
theorem wireOf_respelledFrame :
    roomKeys.wireOf respelledFrame = some (hiWire carolBase32 "alice") := by
  decide +kernel

end Sample

end IrohWebRtc
