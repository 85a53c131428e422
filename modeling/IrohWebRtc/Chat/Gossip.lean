import IrohWebRtc.Chat.Room
import IrohWebRtc.Core.Error
import IrohWebRtc.Lib.Runs

/-!
# Joining and leaving topics

`ChatGossipProtocol::handle_command` of `protocol.rs`, with its three maps from topics: the sender
of the subscription, the keys of the room and the receiver task.

A command runs without interruption up to its end, except that a `Join` waits for `subscribe`.
Any number of calls can wait there at the same time, and `step` takes their turns in any order.
The messages that a command broadcasts are sent by tasks of their own, which hold a clone of the
sender until they are done; iroh-gossip releases a subscription when its last sender is dropped.

Each call is noted with whether one of its turns has changed an entry of its topic.  This is for
the calls that fail, which should leave everything as it was.

* `ChatGossipProtocol.handleCommand`, `afterSubscribe`: the turns of a call.
* `ChatGossip.step`: the calls, the broadcasts and the maps together.

What is broadcast is left out here; `Chat.Tab` has the contents of the messages as well.
-/

namespace IrohWebRtc

open Bytes Utf8

/-- What joining uses of its libraries besides the receiver's. -/
class JoinLibraries extends ChatLibraries where
  /-- `Hkdf::<Sha256>::new(None, secret).expand(info, 32 bytes)`. -/
  hkdfExpand : FixedBytes 32 → List UInt8 → FixedBytes 32
  /-- The text of the error with which a key does not parse. -/
  keyParsingError : String → String

/-- `ChatGossipCommand`. -/
inductive ChatGossipCommand where
  | join (topic : String) (roomSecret : FixedBytes 32) (peers : List String)
      (endpoint name : String)
  | send (topic fromEndpoint fromName text : String)
  | leave (topic : String)
  deriving DecidableEq

def ChatGossipCommand.topic : ChatGossipCommand → String
  | .join topic _ _ _ _ | .send topic _ _ _ | .leave topic => topic

def ChatGossipCommand.isJoin : ChatGossipCommand → Bool
  | .join _ _ _ _ _ => true
  | .send _ _ _ _ | .leave _ => false

/-- A subscription of iroh-gossip, by the topic it was requested for and a number. -/
structure Subscription where
  topic : String
  number : ℕ
  deriving DecidableEq

/-- `ChatGossipProtocol`.  A sender, and a task with its sender and receiver, is given by the
subscription it belongs to. -/
structure ChatGossipProtocol where
  gossip : Bool
  topics : Table String Subscription
  keys : Table String RoomKeys
  tasks : Table String Subscription
  events : List ChatGossipEvent

/-- How a turn of a call ends. -/
inductive CommandOutcome where
  | returned (result : Except Error Unit)
  | subscribing (topicId : FixedBytes 32) (peers : List (FixedBytes 32))

/-- The result of a call that has returned. -/
def CommandOutcome.result : CommandOutcome → Option (Except Error Unit)
  | .returned result => some result
  | .subscribing _ _ => none

/-- A turn of a call: the state it leaves, the senders its broadcasts hold, and how it ends. -/
structure CommandTurn where
  protocol : ChatGossipProtocol
  broadcasts : List Subscription
  outcome : CommandOutcome

section Libraries

variable [JoinLibraries]

/-- `derive_room_keys`. -/
def deriveRoomKeys (secret : FixedBytes 32) : RoomKeys where
  topicId := JoinLibraries.hkdfExpand secret (utf8Bytes "iroh-messenger/topic-id/v1")
  aesKey := JoinLibraries.hkdfExpand secret (utf8Bytes "iroh-messenger/aes-key/v1")

/-- `parse_peers`. -/
def parsePeers (peers : List String) : Except Error (List (FixedBytes 32)) :=
  peers.mapM fun p =>
    match ChatLibraries.parsePublicKey p with
    | none => .error (.webRtc (JoinLibraries.keyParsingError p))
    | some endpoint => .ok endpoint

end Libraries

namespace ChatGossipProtocol

def new : ChatGossipProtocol where
  gossip := false
  topics := ∅
  keys := ∅
  tasks := ∅
  events := []

/-- `handler`, which starts gossip once. -/
def handler (protocol : ChatGossipProtocol) : ChatGossipProtocol :=
  { protocol with gossip := true }

/-- `existing_gossip`. -/
def existingGossip (protocol : ChatGossipProtocol) : Except Error Unit :=
  if protocol.gossip then .ok () else .error (.webRtc "gossip not yet registered")

/-- The entries of a topic in the three maps. -/
def entries (protocol : ChatGossipProtocol) (topic : String) :
    Option Subscription × Option RoomKeys × Option Subscription :=
  (protocol.topics.lookup topic, protocol.keys.lookup topic, protocol.tasks.lookup topic)

/-- The end of a `Join`, when `subscribe` has answered. -/
def afterSubscribe (protocol : ChatGossipProtocol) (topic : String) (sender : Subscription) :
    Except String Unit → CommandTurn
  | .error e => ⟨protocol, [], .returned (.error (.webRtc e))⟩
  | .ok () =>
    { protocol := { protocol with
        topics := protocol.topics.insert topic sender
        tasks := protocol.tasks.insert topic sender
        events := protocol.events ++ [.joined topic] }
      broadcasts := [sender]
      outcome := .returned (.ok ()) }

variable [JoinLibraries]

/-- `handle_command`, up to its end or to where a `Join` waits. -/
def handleCommand (protocol : ChatGossipProtocol) : ChatGossipCommand → CommandTurn
  | .join topic roomSecret peers _ _ =>
    let roomKeys := deriveRoomKeys roomSecret
    let protocol := { protocol with keys := protocol.keys.insert topic roomKeys }
    match protocol.topics.lookup topic with
    | some existingSender =>
      { protocol := { protocol with events := protocol.events ++ [.joined topic] }
        broadcasts := [existingSender]
        outcome := .returned (.ok ()) }
    | none =>
      match parsePeers peers with
      | .error e => ⟨protocol, [], .returned (.error e)⟩
      | .ok peers =>
        match protocol.existingGossip with
        | .error e => ⟨protocol, [], .returned (.error e)⟩
        | .ok () => ⟨protocol, [], .subscribing roomKeys.topicId peers⟩
  | .send topic _ _ _ =>
    match protocol.topics.lookup topic, protocol.keys.lookup topic with
    | none, _ => ⟨protocol, [], .returned (.error (.webRtc ("not joined to " ++ topic)))⟩
    | some _, none => ⟨protocol, [], .returned (.error (.webRtc ("no key for " ++ topic)))⟩
    | some sender, some _ => ⟨protocol, [sender], .returned (.ok ())⟩
  | .leave topic =>
    { protocol := { protocol with
        topics := protocol.topics.erase topic
        keys := protocol.keys.erase topic
        tasks := protocol.tasks.erase topic }
      broadcasts :=
        match protocol.topics.lookup topic, protocol.keys.lookup topic with
        | some sender, some _ => [sender]
        | _, _ => []
      outcome := .returned (.ok ()) }

end ChatGossipProtocol

/-! ## Calls side by side -/

/-- A call of `handle_command`.  It has no result while it waits; and it is noted whether one of its
turns has changed an entry of its topic. -/
structure CommandCall where
  command : ChatGossipCommand
  result : Option (Except Error Unit)
  changed : Bool

/-- The protocol, the calls made so far, and the broadcasts under way. -/
structure ChatGossip where
  protocol : ChatGossipProtocol
  broadcasts : List Subscription
  calls : List CommandCall
  granted : ℕ

/-- What can happen next. -/
inductive GossipEvent where
  /-- The router asks for the protocol handler. -/
  | handler
  | command (command : ChatGossipCommand)
  /-- `subscribe` answers a call. -/
  | subscribed (call : ℕ) (result : Except String Unit)
  /-- A broadcast ends. -/
  | broadcastDone (broadcast : ℕ)
  /-- The receiver task of a topic announces itself after a `Sync`. -/
  | announces (topic : String)
  /-- `next_event`. -/
  | nextEvent

namespace ChatGossip

def new : ChatGossip := ⟨.new, [], [], 0⟩

/-- The topics of the calls that wait for `subscribe`. -/
def waiting (calls : List CommandCall) : List String :=
  (calls.filter fun call => call.result.isNone).map fun call => call.command.topic

/-- A `Join` of the topic waits for `subscribe`. -/
def Joining (s : ChatGossip) (topic : String) : Prop := topic ∈ waiting s.calls

/-- A sender or a task of a subscription of the topic has not been dropped. -/
def Held (s : ChatGossip) (topic : String) : Prop :=
  ∃ subscription : Subscription, subscription.topic = topic ∧
    ((∃ name, s.protocol.topics.lookup name = some subscription) ∨
      (∃ name, s.protocol.tasks.lookup name = some subscription) ∨ subscription ∈ s.broadcasts)

variable [JoinLibraries]

def step (s : ChatGossip) : GossipEvent → Option ChatGossip
  | .handler => some { s with protocol := s.protocol.handler }
  | .command command =>
    let turn := s.protocol.handleCommand command
    some { s with
      protocol := turn.protocol
      broadcasts := s.broadcasts ++ turn.broadcasts
      calls := s.calls ++ [⟨command, turn.outcome.result,
        turn.protocol.entries command.topic ≠ s.protocol.entries command.topic⟩] }
  | .subscribed n result =>
    match s.calls[n]? with
    | none => none
    | some call =>
      if call.result.isSome then none
      else
        let topic := call.command.topic
        let turn := s.protocol.afterSubscribe topic ⟨topic, s.granted⟩ result
        some
          { protocol := turn.protocol
            broadcasts := s.broadcasts ++ turn.broadcasts
            calls := s.calls.set n { call with
              result := turn.outcome.result
              changed := call.changed ||
                turn.protocol.entries topic ≠ s.protocol.entries topic }
            granted := s.granted + 1 }
  | .broadcastDone n =>
    if n < s.broadcasts.length then some { s with broadcasts := s.broadcasts.eraseIdx n } else none
  | .announces topic =>
    match s.protocol.tasks.lookup topic with
    | none => none
    | some sender => some { s with broadcasts := s.broadcasts ++ [sender] }
  | .nextEvent =>
    match s.protocol.events with
    | [] => none
    | _ :: rest => some { s with protocol := { s.protocol with events := rest } }

end ChatGossip

namespace Sample

/-- The keys of the room of the secret `[8; 32]`. -/
def denKeys : RoomKeys where
  topicId :=
    ⟨hexBytes "c3ad95c928521d2e3ed26c516d443c1e03617635a8866e70ba80ef1bb2f4c414", by decide⟩
  aesKey :=
    ⟨hexBytes "8316bf93bd4f6505dc611a1172ff6a599a4dafd42aa5d98cb215ff840805f01e", by decide⟩

/-- The libraries on the rooms of the secrets `[7; 32]` and `[8; 32]`. -/
scoped instance : JoinLibraries where
  hkdfExpand secret info :=
    let keys := if secret = .replicate 32 8 then denKeys else roomKeys
    if info = utf8Bytes "iroh-messenger/topic-id/v1" then keys.topicId else keys.aesKey
  keyParsingError _ := "decoding failed"

end Sample

end IrohWebRtc
