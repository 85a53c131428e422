import IrohWebRtc.Chat.Wire
import IrohWebRtc.Lib.Keyed
import IrohWebRtc.Lib.Runs
import IrohWebRtc.Lib.Table
import Mathlib.Data.Finset.Basic

/-!
# The state of the chat room

`AppState` with its reducer (`state.rs`) and `add_known_peer` (`util.rs`).  Most actions change
the room of one topic; the others add and remove rooms and choose the one that is shown.

Actions come from the user and from the network, and the reducer is the one place where they meet.
It must therefore keep its invariants for whatever comes in, in any order: a message for a room
that was left, a neighbour that goes down without having come up, a room that is added twice.

* `AppState.reduce`, as the source has it, and `RoomState.neighborUp` and its like for the changes
  of one room.
* `reduce_of_change`, `room_reduce`: what an action does to the room of a topic.
* `IsWellFormed`: the invariants of the lists.
* `departed_iff`: who has left a room, from the actions since it was added.
* `reducer_invariants`: all of it, for every run.

The rooms are a list with keys (`Lib.Keyed`).  That an action changes at most the room of its
topic, and leaves the others where they stand, is proved there once for all actions.
-/

namespace IrohWebRtc

open Bytes Runs

structure ChatMsg where
  fromEndpoint : String
  fromName : String
  text : String
  isSystem : Bool
  deriving DecidableEq

inductive RoomMode where
  | hosting
  | joined
  deriving DecidableEq, Repr

structure RoomState where
  topicId : String
  roomSecret : FixedBytes 32
  name : String
  mode : RoomMode
  messages : List ChatMsg
  participants : List String
  names : Table String String
  joined : Bool
  bootstrapPeers : List String
  leftSigners : Finset String

structure AppState where
  rooms : List RoomState
  activeTopic : Option String
  name : String
  joinError : Option String

inductive Action where
  | setInitial (state : AppState)
  | addRoom (room : RoomState)
  | removeRoom (topic : String)
  | setActive (topic : String)
  | localSend (topic : String) (msg : ChatMsg)
  | joined (topic : String)
  | neighborUp (topic endpoint : String)
  | neighborDown (topic endpoint : String)
  | recvChat (topic fromEndpoint fromName text : String)
  | system (topic text : String)
  | identify (topic endpoint name : String)
  | peerLeft (topic endpoint : String)
  | setJoinError (error : Option String)

def maxBootstrapPeers : ℕ := 20

def addKnownPeer (peers : List String) (ep : String) : List String :=
  if ep ∈ peers then peers
  else (if maxBootstrapPeers ≤ peers.length then peers.eraseIdx 0 else peers) ++ [ep]

def sysMsg (text : String) : ChatMsg := ⟨"", "", text, true⟩

/-! ## One room -/

namespace RoomState

/-- The name that system messages show. -/
def display (r : RoomState) (endpoint : String) : String :=
  (r.names.lookup endpoint).getD (String.ofList (endpoint.toList.take 12) ++ "…")

def pushMessage (r : RoomState) (msg : ChatMsg) : RoomState :=
  { r with messages := r.messages ++ [msg] }

def dropParticipant (r : RoomState) (endpoint : String) : RoomState :=
  { r with participants := r.participants.filter fun p => p ≠ endpoint }

def neighborUp (r : RoomState) (endpoint : String) : RoomState :=
  { r with
    participants :=
      if endpoint ∈ r.participants then r.participants else r.participants ++ [endpoint]
    bootstrapPeers := addKnownPeer r.bootstrapPeers endpoint
    leftSigners := r.leftSigners.erase endpoint }

/-- The message of a `NeighborDown`. -/
def disconnected (r : RoomState) (endpoint : String) : ChatMsg :=
  sysMsg ("*** " ++ r.display endpoint ++ " disconnected")

def neighborDown (r : RoomState) (endpoint : String) : RoomState :=
  if endpoint ∈ r.leftSigners then r.dropParticipant endpoint
  else (r.dropParticipant endpoint).pushMessage (r.disconnected endpoint)

def peerLeft (r : RoomState) (endpoint : String) : RoomState :=
  { (r.dropParticipant endpoint).pushMessage
      (sysMsg ("*** " ++ r.display endpoint ++ " left the room")) with
    leftSigners := insert endpoint r.leftSigners }

def recvChat (r : RoomState) (fromEndpoint fromName text : String) : RoomState :=
  { r.pushMessage ⟨fromEndpoint, fromName, text, false⟩ with
    -- the first name that is seen is pinned
    names := if (r.names.lookup fromEndpoint).isSome then r.names
      else r.names.insert fromEndpoint fromName }

def identify (r : RoomState) (endpoint name : String) : RoomState :=
  let r := { r with bootstrapPeers := addKnownPeer r.bootstrapPeers endpoint }
  if (r.names.lookup endpoint).isSome then r
  else { r.pushMessage (sysMsg ("*** " ++ name ++ " joined")) with
    names := r.names.insert endpoint name }

end RoomState

/-! ## The reducer -/

namespace AppState

/-- The room of a topic. -/
def room (s : AppState) (topic : String) : Option RoomState :=
  Keyed.find RoomState.topicId topic s.rooms

/-- Changes the room of a topic, if there is one. -/
def updateRoom (s : AppState) (topic : String) (f : RoomState → RoomState) : AppState :=
  { s with rooms := Keyed.modify RoomState.topicId topic f s.rooms }

def reduce (s : AppState) : Action → AppState
  | .setInitial state => state
  | .addRoom room =>
    { s with
      joinError := none
      activeTopic := some room.topicId
      rooms := if s.rooms.any fun x => x.topicId = room.topicId then s.rooms
        else s.rooms ++ [room] }
  | .removeRoom topic =>
    let rooms := s.rooms.filter fun r => r.topicId ≠ topic
    { s with
      rooms := rooms
      activeTopic :=
        if s.activeTopic = some topic then rooms.head?.map RoomState.topicId else s.activeTopic }
  | .setActive topic => { s with activeTopic := some topic }
  | .localSend topic msg => s.updateRoom topic (·.pushMessage msg)
  | .joined topic => s.updateRoom topic fun r => { r with joined := true }
  | .neighborUp topic endpoint => s.updateRoom topic (·.neighborUp endpoint)
  | .neighborDown topic endpoint => s.updateRoom topic (·.neighborDown endpoint)
  | .recvChat topic fromEndpoint fromName text =>
    s.updateRoom topic (·.recvChat fromEndpoint fromName text)
  | .system topic text => s.updateRoom topic (·.pushMessage (sysMsg text))
  | .identify topic endpoint name => s.updateRoom topic (·.identify endpoint name)
  | .peerLeft topic endpoint => s.updateRoom topic (·.peerLeft endpoint)
  | .setJoinError error => { s with joinError := error }

end AppState

/-! ## The invariants -/

/-- The lists of a room have no duplicates, and no more bootstrap peers than are kept. -/
structure RoomState.IsWellFormed (r : RoomState) : Prop where
  participants : r.participants.Nodup
  bootstrapPeers : r.bootstrapPeers.Nodup
  length_bootstrapPeers : r.bootstrapPeers.length ≤ maxBootstrapPeers

/-- The rooms have different topics, the active topic is that of a room, and the lists of all rooms
are as they should be. -/
structure AppState.IsWellFormed (s : AppState) : Prop where
  topics : (s.rooms.map RoomState.topicId).Nodup
  active : ∀ topic, s.activeTopic = some topic → ∃ r ∈ s.rooms, r.topicId = topic
  rooms : ∀ r ∈ s.rooms, r.IsWellFormed

/-- A state in which nobody has left a room yet. -/
structure AppState.IsInitial (s : AppState) : Prop extends s.IsWellFormed where
  leftSigners : ∀ r ∈ s.rooms, r.leftSigners = ∅

instance (r : RoomState) : Decidable r.IsWellFormed :=
  decidable_of_iff (r.participants.Nodup ∧ r.bootstrapPeers.Nodup ∧
      r.bootstrapPeers.length ≤ maxBootstrapPeers)
    ⟨fun ⟨h₁, h₂, h₃⟩ => ⟨h₁, h₂, h₃⟩, fun ⟨h₁, h₂, h₃⟩ => ⟨h₁, h₂, h₃⟩⟩

instance (s : AppState) : Decidable s.IsWellFormed :=
  decidable_of_iff ((s.rooms.map RoomState.topicId).Nodup ∧
      (∀ topic ∈ s.activeTopic, ∃ r ∈ s.rooms, r.topicId = topic) ∧ ∀ r ∈ s.rooms, r.IsWellFormed)
    ⟨fun ⟨h₁, h₂, h₃⟩ => ⟨h₁, h₂, h₃⟩, fun ⟨h₁, h₂, h₃⟩ => ⟨h₁, h₂, h₃⟩⟩

instance (s : AppState) : Decidable s.IsInitial :=
  decidable_of_iff (s.IsWellFormed ∧ ∀ r ∈ s.rooms, r.leftSigners = ∅)
    ⟨fun ⟨h₁, h₂⟩ => ⟨h₁, h₂⟩, fun ⟨h₁, h₂⟩ => ⟨h₁, h₂⟩⟩

namespace Action

/-- What callers keep to. -/
def Allowed (s : AppState) : Action → Prop
  | .setInitial state => state.IsInitial
  | .addRoom room => room.IsWellFormed ∧ room.leftSigners = ∅
  | .setActive topic => ∃ r ∈ s.rooms, r.topicId = topic
  | _ => True

instance (s : AppState) : ∀ a : Action, Decidable (a.Allowed s)
  | .setInitial state => inferInstanceAs (Decidable state.IsInitial)
  | .addRoom room => inferInstanceAs (Decidable (room.IsWellFormed ∧ room.leftSigners = ∅))
  | .setActive topic => inferInstanceAs (Decidable (∃ r ∈ s.rooms, r.topicId = topic))
  | .removeRoom _ | .localSend .. | .joined _ | .neighborUp .. | .neighborDown .. | .recvChat ..
  | .system .. | .identify .. | .peerLeft .. | .setJoinError _ => .isTrue trivial

/-- The topic that the action is for. -/
def topic : Action → Option String
  | .setInitial _ | .setJoinError _ => none
  | .addRoom room => some room.topicId
  | .removeRoom topic | .setActive topic | .localSend topic _ | .joined topic | .neighborUp topic _
  | .neighborDown topic _ | .recvChat topic .. | .system topic _ | .identify topic ..
  | .peerLeft topic _ => some topic

/-- The action ends the room of the topic, if there is one. -/
def Ends (topic : String) : Action → Prop
  | .setInitial _ => True
  | .removeRoom topic' => topic' = topic
  | _ => False

/-- What the action does to the room of its topic. -/
def change : Action → Option (String × (RoomState → RoomState))
  | .localSend topic msg => some (topic, (·.pushMessage msg))
  | .joined topic => some (topic, fun r => { r with joined := true })
  | .neighborUp topic endpoint => some (topic, (·.neighborUp endpoint))
  | .neighborDown topic endpoint => some (topic, (·.neighborDown endpoint))
  | .recvChat topic fromEndpoint fromName text =>
    some (topic, (·.recvChat fromEndpoint fromName text))
  | .system topic text => some (topic, (·.pushMessage (sysMsg text)))
  | .identify topic endpoint name => some (topic, (·.identify endpoint name))
  | .peerLeft topic endpoint => some (topic, (·.peerLeft endpoint))
  | _ => none

end Action

/-! ## Known peers -/

theorem nodup_addKnownPeer {peers : List String} (ep : String) (h : peers.Nodup) :
    (addKnownPeer peers ep).Nodup := by
  have happend : ∀ {l : List String}, l.Nodup → ep ∉ l → (l ++ [ep]).Nodup := by
    intro l hl hep
    rw [← List.concat_eq_append]
    exact hl.concat hep
  rw [addKnownPeer]
  split_ifs with hmem hfull
  · exact h
  · exact happend (h.sublist (List.eraseIdx_sublist _ _))
      fun hep => hmem (List.mem_of_mem_eraseIdx hep)
  · exact happend h hmem

theorem length_addKnownPeer_le {peers : List String} (ep : String)
    (h : peers.length ≤ maxBootstrapPeers) : (addKnownPeer peers ep).length ≤ maxBootstrapPeers := by
  rw [addKnownPeer]
  split_ifs with hmem hfull
  · exact h
  · have hpos : 0 < peers.length := Nat.lt_of_lt_of_le (by decide) hfull
    rw [List.length_append, List.length_eraseIdx_of_lt hpos, List.length_singleton]
    omega
  · rw [List.length_append, List.length_singleton]
    omega

/-! ## Changes of one room -/

namespace RoomState

variable {r : RoomState}

theorem IsWellFormed.dropParticipant (h : r.IsWellFormed) (endpoint : String) :
    (r.dropParticipant endpoint).IsWellFormed :=
  ⟨h.participants.filter _, h.bootstrapPeers, h.length_bootstrapPeers⟩

theorem IsWellFormed.neighborUp (h : r.IsWellFormed) (endpoint : String) :
    (r.neighborUp endpoint).IsWellFormed := by
  refine ⟨?_, nodup_addKnownPeer endpoint h.bootstrapPeers,
    length_addKnownPeer_le endpoint h.length_bootstrapPeers⟩
  show (if endpoint ∈ r.participants then r.participants else _).Nodup
  split_ifs with hmem
  · exact h.participants
  · rw [← List.concat_eq_append]
    exact h.participants.concat hmem

theorem IsWellFormed.neighborDown (h : r.IsWellFormed) (endpoint : String) :
    (r.neighborDown endpoint).IsWellFormed := by
  rw [RoomState.neighborDown]
  split_ifs
  · exact h.dropParticipant endpoint
  · obtain ⟨hparticipants, hpeers, hlength⟩ := h.dropParticipant endpoint
    exact ⟨hparticipants, hpeers, hlength⟩

theorem IsWellFormed.identify (h : r.IsWellFormed) (endpoint name : String) :
    (r.identify endpoint name).IsWellFormed := by
  have hpeers := nodup_addKnownPeer endpoint h.bootstrapPeers
  have hlength := length_addKnownPeer_le endpoint h.length_bootstrapPeers
  simp only [RoomState.identify]
  split_ifs
  · exact ⟨h.participants, hpeers, hlength⟩
  · exact ⟨h.participants, hpeers, hlength⟩

/-- The names that are pinned in `r` are pinned in `r'`. -/
def Pins (r r' : RoomState) : Prop :=
  ∀ endpoint name, r.names.lookup endpoint = some name → r'.names.lookup endpoint = some name

theorem Pins.refl (r : RoomState) : r.Pins r := fun _ _ => id

theorem Pins.trans {r' r'' : RoomState} (h : r.Pins r') (h' : r'.Pins r'') : r.Pins r'' :=
  fun endpoint name hname => h' endpoint name (h endpoint name hname)

/-- A name is inserted only for an endpoint that has none. -/
theorem lookup_insert_of_lookup {names : Table String String} {endpoint endpoint' name name' : String}
    (hnone : ¬ (names.lookup endpoint').isSome = true) (h : names.lookup endpoint = some name) :
    (names.insert endpoint' name').lookup endpoint = some name := by
  have hne : endpoint ≠ endpoint' := by
    rintro rfl
    exact hnone (by rw [h]; rfl)
  rw [AList.lookup_insert_ne hne, h]

theorem pins_recvChat (fromEndpoint fromName text : String) :
    r.Pins (r.recvChat fromEndpoint fromName text) := by
  intro endpoint name h
  show (if (r.names.lookup fromEndpoint).isSome = true then r.names
    else r.names.insert fromEndpoint fromName).lookup endpoint = some name
  split_ifs with hsome
  · exact h
  · exact lookup_insert_of_lookup hsome h

theorem pins_identify (endpoint name : String) : r.Pins (r.identify endpoint name) := by
  intro endpoint' name' h
  simp only [identify]
  split_ifs with hsome
  · exact h
  · exact lookup_insert_of_lookup hsome h

end RoomState

namespace Action

variable {a : Action} {topic : String} {f : RoomState → RoomState}

theorem topic_of_change (h : a.change = some (topic, f)) : a.topic = some topic := by
  cases a <;> cases h <;> rfl

theorem not_ends_of_change (h : a.change = some (topic, f)) (topic' : String) :
    ¬ a.Ends topic' := by
  cases a <;> cases h <;> exact id

theorem reduce_of_change (h : a.change = some (topic, f)) (s : AppState) :
    s.reduce a = s.updateRoom topic f := by
  cases a <;> cases h <;> rfl

/-- A change keeps the topic of the room. -/
theorem topicId_of_change (h : a.change = some (topic, f)) (r : RoomState) :
    (f r).topicId = r.topicId := by
  cases a with
  | neighborDown =>
    cases h
    simp only [RoomState.neighborDown]
    split_ifs <;> rfl
  | identify =>
    cases h
    simp only [RoomState.identify]
    split_ifs <;> rfl
  | setInitial | addRoom | removeRoom | setActive | setJoinError => cases h
  | _ =>
    cases h
    rfl

/-- A change keeps the secret of the room. -/
theorem roomSecret_of_change (h : a.change = some (topic, f)) (r : RoomState) :
    (f r).roomSecret = r.roomSecret := by
  cases a with
  | neighborDown =>
    cases h
    simp only [RoomState.neighborDown]
    split_ifs <;> rfl
  | identify =>
    cases h
    simp only [RoomState.identify]
    split_ifs <;> rfl
  | setInitial | addRoom | removeRoom | setActive | setJoinError => cases h
  | _ =>
    cases h
    rfl

theorem isWellFormed_of_change (h : a.change = some (topic, f)) {r : RoomState}
    (hr : r.IsWellFormed) : (f r).IsWellFormed := by
  cases a with
  | neighborUp _ endpoint =>
    cases h
    exact hr.neighborUp endpoint
  | neighborDown _ endpoint =>
    cases h
    exact hr.neighborDown endpoint
  | identify _ endpoint name =>
    cases h
    exact hr.identify endpoint name
  | peerLeft _ endpoint =>
    cases h
    obtain ⟨hparticipants, hpeers, hlength⟩ := hr.dropParticipant endpoint
    exact ⟨hparticipants, hpeers, hlength⟩
  | setInitial | addRoom | removeRoom | setActive | setJoinError => cases h
  | _ =>
    cases h
    exact ⟨hr.participants, hr.bootstrapPeers, hr.length_bootstrapPeers⟩

theorem pins_of_change (h : a.change = some (topic, f)) (r : RoomState) : r.Pins (f r) := by
  cases a with
  | neighborDown =>
    cases h
    simp only [RoomState.neighborDown]
    split_ifs <;> exact .refl r
  | recvChat _ fromEndpoint fromName text =>
    cases h
    exact r.pins_recvChat fromEndpoint fromName text
  | identify _ endpoint name =>
    cases h
    exact r.pins_identify endpoint name
  | setInitial | addRoom | removeRoom | setActive | setJoinError => cases h
  | _ =>
    cases h
    exact .refl r

/-- Who has left after a change: the peer of a `PeerLeft`, and who had left before, but for the peer
of a `NeighborUp`. -/
theorem mem_leftSigners_of_change (h : a.change = some (topic, f)) (r : RoomState)
    (endpoint : String) :
    endpoint ∈ (f r).leftSigners ↔
      a = .peerLeft topic endpoint ∨
        endpoint ∈ r.leftSigners ∧ a ≠ .neighborUp topic endpoint := by
  cases a with
  | neighborUp _ endpoint' =>
    cases h
    show endpoint ∈ r.leftSigners.erase endpoint' ↔ _
    rw [Finset.mem_erase]
    simp [and_comm, eq_comm]
  | neighborDown _ endpoint' =>
    cases h
    have hsame : (r.neighborDown endpoint').leftSigners = r.leftSigners := by
      rw [RoomState.neighborDown]
      split_ifs <;> rfl
    rw [hsame]
    simp
  | identify _ endpoint' name =>
    cases h
    have hsame : (r.identify endpoint' name).leftSigners = r.leftSigners := by
      simp only [RoomState.identify]
      split_ifs <;> rfl
    rw [hsame]
    simp
  | peerLeft _ endpoint' =>
    cases h
    show endpoint ∈ insert endpoint' r.leftSigners ↔ _
    rw [Finset.mem_insert]
    simp [eq_comm]
  | setInitial | addRoom | removeRoom | setActive | setJoinError => cases h
  | _ =>
    cases h
    simp [RoomState.pushMessage, RoomState.recvChat]

end Action

/-! ## All rooms -/

namespace AppState

variable {s : AppState} {a : Action} {topic endpoint : String}

theorem room_eq_some {r : RoomState} (h : s.room topic = some r) :
    r ∈ s.rooms ∧ r.topicId = topic :=
  ⟨Keyed.mem_of_find h, Keyed.key_of_find h⟩

theorem room_of_change {topic' : String} {f : RoomState → RoomState}
    (h : a.change = some (topic', f)) :
    (s.reduce a).room topic = if topic = topic' then (s.room topic').map f else s.room topic := by
  rw [Action.reduce_of_change h]
  exact Keyed.find_modify (Action.topicId_of_change h)

/-- A room is added at the end, unless its topic has one. -/
theorem room_addRoom (r : RoomState) :
    (s.reduce (.addRoom r)).room topic =
      if r.topicId = topic then some ((s.room topic).getD r) else s.room topic := by
  have hany : (s.rooms.any fun x => x.topicId = r.topicId) = true ↔
      (s.room r.topicId).isSome = true := by
    rw [room, Keyed.isSome_find, List.any_eq_true]
    simp
  show Keyed.find RoomState.topicId topic
    (if (s.rooms.any fun x => x.topicId = r.topicId) = true then s.rooms else s.rooms ++ [r]) = _
  by_cases hsome : (s.rooms.any fun x => x.topicId = r.topicId) = true
  · rw [if_pos hsome]
    split_ifs with htopic
    · obtain ⟨r', hr'⟩ := Option.isSome_iff_exists.mp (hany.mp hsome)
      rw [htopic] at hr'
      rw [hr', Option.getD_some]
      exact hr'
    · rfl
  · rw [if_neg hsome, Keyed.find_append, Keyed.find_cons]
    split_ifs with htopic
    · have hnone : s.room topic = none := by
        rw [← htopic, ← Option.not_isSome_iff_eq_none]
        exact fun h => hsome (hany.mpr h)
      rw [hnone]
      show (s.room topic).or (some r) = _
      rw [hnone]
      rfl
    · rw [Keyed.find_nil, Option.or_none]
      rfl

theorem room_removeRoom (topic' : String) :
    (s.reduce (.removeRoom topic')).room topic = if topic = topic' then none else s.room topic :=
  Keyed.find_filter_ne

/-- **An action for one topic leaves the rooms of the others as they are**, in their order. -/
theorem filter_rooms_reduce (h : a.topic = some topic) :
    (s.reduce a).rooms.filter (fun r => r.topicId ≠ topic) =
      s.rooms.filter fun r => r.topicId ≠ topic := by
  have hchange : ∀ topic' f, a.change = some (topic', f) →
      (s.reduce a).rooms.filter (fun r => r.topicId ≠ topic) =
        s.rooms.filter fun r => r.topicId ≠ topic := by
    intro topic' f hf
    obtain rfl := Option.some.inj (h.symm.trans (Action.topic_of_change hf))
    rw [Action.reduce_of_change hf]
    exact Keyed.filter_modify (Action.topicId_of_change hf)
  cases a with
  | setInitial | setJoinError => cases h
  | addRoom r =>
    obtain rfl := Option.some.inj h
    show List.filter _ (if _ then s.rooms else s.rooms ++ [r]) = _
    split_ifs
    · rfl
    · rw [List.filter_append, List.filter_cons_of_neg (by simp), List.filter_nil, List.append_nil]
  | removeRoom topic' =>
    obtain rfl := Option.some.inj h
    show List.filter _ (s.rooms.filter _) = _
    rw [List.filter_filter]
    simp
  | setActive => rfl
  | _ => exact hchange _ _ rfl

/-! ## Well-formed states -/

theorem isWellFormed_of_change {f : RoomState → RoomState} (h : a.change = some (topic, f))
    (hs : s.IsWellFormed) : (s.reduce a).IsWellFormed := by
  rw [Action.reduce_of_change h]
  have hkeys : (Keyed.modify RoomState.topicId topic f s.rooms).map RoomState.topicId =
      s.rooms.map RoomState.topicId := Keyed.map_key_modify (Action.topicId_of_change h)
  refine ⟨?_, fun topic' hactive => ?_, ?_⟩
  · show ((Keyed.modify RoomState.topicId topic f s.rooms).map RoomState.topicId).Nodup
    rw [hkeys]
    exact hs.topics
  · have hmem : topic' ∈ s.rooms.map RoomState.topicId :=
      List.mem_map.mpr (hs.active topic' hactive)
    rw [← hkeys] at hmem
    exact List.mem_map.mp hmem
  · exact Keyed.forall_mem_modify (fun _ => Action.isWellFormed_of_change h) hs.rooms

theorem isWellFormed_addRoom {r : RoomState} (hs : s.IsWellFormed) (hr : r.IsWellFormed) :
    (s.reduce (.addRoom r)).IsWellFormed := by
  by_cases hany : (s.rooms.any fun x => x.topicId = r.topicId) = true
  · have hrooms : (s.reduce (.addRoom r)).rooms = s.rooms := if_pos hany
    refine ⟨hrooms ▸ hs.topics, fun topic hactive => ?_, hrooms ▸ hs.rooms⟩
    obtain rfl := Option.some.inj hactive
    rw [hrooms]
    obtain ⟨x, hx, heq⟩ := List.any_eq_true.mp hany
    exact ⟨x, hx, of_decide_eq_true heq⟩
  · have hrooms : (s.reduce (.addRoom r)).rooms = s.rooms ++ [r] := if_neg hany
    refine ⟨?_, fun topic hactive => ?_, fun x hx => ?_⟩
    · rw [hrooms, List.map_append, List.map_singleton, ← List.concat_eq_append]
      refine hs.topics.concat fun hmem => hany ?_
      obtain ⟨x, hx, heq⟩ := List.mem_map.mp hmem
      exact List.any_eq_true.mpr ⟨x, hx, decide_eq_true heq⟩
    · obtain rfl := Option.some.inj hactive
      exact ⟨r, hrooms ▸ List.mem_append_right _ List.mem_cons_self, rfl⟩
    · rw [hrooms] at hx
      rcases List.mem_append.mp hx with hx | hx
      · exact hs.rooms x hx
      · exact List.mem_singleton.mp hx ▸ hr

/-- When the active room is removed, the first of the others becomes active. -/
theorem isWellFormed_removeRoom (hs : s.IsWellFormed) (topic : String) :
    (s.reduce (.removeRoom topic)).IsWellFormed := by
  have hrooms : (s.reduce (.removeRoom topic)).rooms = s.rooms.filter fun r => r.topicId ≠ topic :=
    rfl
  refine ⟨?_, fun topic' hactive => ?_, fun x hx => hs.rooms x (List.mem_of_mem_filter hx)⟩
  · rw [hrooms]
    exact hs.topics.sublist (List.filter_sublist.map _)
  · rw [hrooms]
    replace hactive : (if s.activeTopic = some topic then
        (s.rooms.filter fun r => r.topicId ≠ topic).head?.map RoomState.topicId
      else s.activeTopic) = some topic' := hactive
    split_ifs at hactive with heq
    · obtain ⟨r, hr, rfl⟩ := Option.map_eq_some_iff.mp hactive
      exact ⟨r, List.mem_of_mem_head? hr, rfl⟩
    · obtain ⟨r, hr, rfl⟩ := hs.active topic' hactive
      refine ⟨r, List.mem_filter.mpr ⟨hr, decide_eq_true ?_⟩, rfl⟩
      rintro rfl
      exact heq hactive

/-- **Every allowed action keeps the invariants.** -/
theorem isWellFormed_reduce (hs : s.IsWellFormed) (ha : a.Allowed s) :
    (s.reduce a).IsWellFormed := by
  cases a with
  | setInitial state => exact ha.toIsWellFormed
  | addRoom r => exact isWellFormed_addRoom hs ha.1
  | removeRoom topic => exact isWellFormed_removeRoom hs topic
  | setActive topic =>
    refine ⟨hs.topics, fun topic' hactive => ?_, hs.rooms⟩
    obtain rfl := Option.some.inj hactive
    exact ha
  | setJoinError => exact ⟨hs.topics, hs.active, hs.rooms⟩
  | _ => exact isWellFormed_of_change rfl hs

/-- **A property of all rooms** is kept by an action, when the change of a room keeps it, and when the
rooms that the action brings have it. -/
theorem forall_mem_rooms_reduce {P : RoomState → Prop} (hs : ∀ r ∈ s.rooms, P r)
    (hinitial : ∀ state, a = .setInitial state → ∀ r ∈ state.rooms, P r)
    (hadd : ∀ room, a = .addRoom room → P room)
    (hchange : ∀ topic f r, a.change = some (topic, f) → r.topicId = topic → P r → P (f r)) :
    ∀ r ∈ (s.reduce a).rooms, P r := by
  cases hact : a.change with
  | some change =>
    obtain ⟨topic, f⟩ := change
    rw [Action.reduce_of_change hact]
    intro r hr
    rcases Keyed.mem_modify hr with hr | ⟨r', hr', htopic, rfl⟩
    · exact hs r hr
    · exact hchange topic f r' hact htopic (hs r' hr')
  | none =>
    cases a with
    | setInitial state => exact hinitial state rfl
    | addRoom room =>
      intro r hr
      simp only [AppState.reduce] at hr
      split_ifs at hr
      · exact hs r hr
      · rcases List.mem_append.mp hr with hr | hr
        · exact hs r hr
        · rw [List.mem_singleton.mp hr]
          exact hadd room rfl
    | removeRoom topic => exact fun r hr => hs r (List.mem_of_mem_filter hr)
    | setActive topic => exact hs
    | setJoinError error => exact hs
    | _ => cases hact

/-! ## While a room stays -/

theorem pins_reduce {r : RoomState} (hr : s.room topic = some r) (hstays : ¬ a.Ends topic) :
    ∃ r', (s.reduce a).room topic = some r' ∧ r.Pins r' := by
  have hchange : ∀ topic' f, a.change = some (topic', f) →
      ∃ r', (s.reduce a).room topic = some r' ∧ r.Pins r' := by
    intro topic' f hf
    rw [room_of_change hf]
    split_ifs with htopic
    · rw [← htopic, hr]
      exact ⟨f r, rfl, Action.pins_of_change hf r⟩
    · exact ⟨r, hr, .refl r⟩
  cases a with
  | setInitial => exact absurd trivial hstays
  | addRoom room =>
    rw [room_addRoom, hr]
    split_ifs <;> exact ⟨r, rfl, .refl r⟩
  | removeRoom topic' =>
    rw [room_removeRoom, if_neg (Ne.symm hstays)]
    exact ⟨r, hr, .refl r⟩
  | setActive | setJoinError => exact ⟨r, hr, .refl r⟩
  | _ => exact hchange _ _ rfl

/-- **While a room stays, its pinned names stay.** -/
theorem pins_foldl {r : RoomState} {actions : List Action} (hr : s.room topic = some r)
    (hstays : ∀ a ∈ actions, ¬ a.Ends topic) :
    ∃ r', (actions.foldl reduce s).room topic = some r' ∧ r.Pins r' := by
  induction actions generalizing s r with
  | nil => exact ⟨r, hr, .refl r⟩
  | cons a actions ih =>
    obtain ⟨hstay, hstays⟩ := List.forall_mem_cons.mp hstays
    obtain ⟨r', hr', hpins⟩ := pins_reduce hr hstay
    obtain ⟨r'', hr'', hpins'⟩ := ih hr' hstays
    exact ⟨r'', hr'', hpins.trans hpins'⟩

/-! ## Who has left -/

/-- The peer is among those that have left the room. -/
def Departed (s : AppState) (topic endpoint : String) : Prop :=
  ∃ r, s.room topic = some r ∧ endpoint ∈ r.leftSigners

/-- In the room that the topic has, a `PeerLeft` of the peer was reduced after its last
`NeighborUp`. -/
def LeftSinceUp (s₀ : AppState) (actions : List Action) (topic endpoint : String) : Prop :=
  ∃ pre post, actions = pre ++ .peerLeft topic endpoint :: post ∧
    ((pre.foldl reduce s₀).room topic).isSome = true ∧
    ∀ a ∈ post, ¬ a.Ends topic ∧ a ≠ .neighborUp topic endpoint

theorem leftSinceUp_concat {s₀ : AppState} {actions : List Action} :
    LeftSinceUp s₀ (actions ++ [a]) topic endpoint ↔
      a = .peerLeft topic endpoint ∧ ((actions.foldl reduce s₀).room topic).isSome = true ∨
        LeftSinceUp s₀ actions topic endpoint ∧ ¬ a.Ends topic ∧ a ≠ .neighborUp topic endpoint := by
  constructor
  · rintro ⟨pre, post, hsplit, hroom, hpost⟩
    rcases append_singleton_eq_append_cons hsplit with ⟨-, rfl, rfl⟩ | ⟨post', rfl, rfl⟩
    · exact Or.inl ⟨rfl, hroom⟩
    · refine Or.inr ⟨⟨pre, post', rfl, hroom, fun b hb => ?_⟩, ?_⟩
      · exact hpost b (List.mem_append_left _ hb)
      · exact hpost a (List.mem_append_right _ (List.mem_singleton.mpr rfl))
  · rintro (⟨rfl, hroom⟩ | ⟨⟨pre, post, rfl, hroom, hpost⟩, ha⟩)
    · exact ⟨actions, [], rfl, hroom, fun b hb => absurd hb List.not_mem_nil⟩
    · refine ⟨pre, post ++ [a], by simp, hroom, fun b hb => ?_⟩
      rcases List.mem_append.mp hb with hb | hb
      · exact hpost b hb
      · exact List.mem_singleton.mp hb ▸ ha

/-- The peer has left the room after an action: by that action, or before it. -/
def DepartsBy (s : AppState) (a : Action) (topic endpoint : String) : Prop :=
  a = .peerLeft topic endpoint ∧ (s.room topic).isSome = true ∨
    s.Departed topic endpoint ∧ ¬ a.Ends topic ∧ a ≠ .neighborUp topic endpoint

/-- An action that leaves the room as it is. -/
theorem departed_of_room_eq (hroom : (s.reduce a).room topic = s.room topic)
    (hends : ¬ a.Ends topic) (hleft : a ≠ .peerLeft topic endpoint)
    (hup : a ≠ .neighborUp topic endpoint) :
    (s.reduce a).Departed topic endpoint ↔ s.DepartsBy a topic endpoint := by
  rw [Departed, hroom]
  constructor
  · intro h
    exact Or.inr ⟨h, hends, hup⟩
  · intro h
    exact (h.resolve_left fun h => hleft h.1).1

theorem departed_of_change {topic' : String} {f : RoomState → RoomState}
    (h : a.change = some (topic', f)) :
    (s.reduce a).Departed topic endpoint ↔ s.DepartsBy a topic endpoint := by
  have hends := Action.not_ends_of_change h topic
  have hroom : (s.reduce a).room topic =
      if topic = topic' then (s.room topic').map f else s.room topic := room_of_change h
  by_cases htopic : topic = topic'
  · subst htopic
    rw [if_pos rfl] at hroom
    cases hr : s.room topic with
    | none =>
      rw [hr] at hroom
      refine iff_of_false ?_ ?_
      · rintro ⟨r, hr', -⟩
        cases hroom.symm.trans hr'
      · rintro (⟨-, h⟩ | ⟨⟨r, hr', -⟩, -⟩)
        · exact absurd h (by rw [hr]; decide)
        · cases hr.symm.trans hr'
    | some r =>
      rw [hr] at hroom
      have hafter : (s.reduce a).Departed topic endpoint ↔ endpoint ∈ (f r).leftSigners := by
        rw [Departed, hroom]
        simp
      have hbefore : s.Departed topic endpoint ↔ endpoint ∈ r.leftSigners := by
        rw [Departed, hr]
        simp
      rw [hafter, DepartsBy, hbefore, hr, Action.mem_leftSigners_of_change h]
      exact or_congr (and_iff_left rfl).symm (and_congr_right fun _ => (and_iff_right hends).symm)
  · rw [if_neg htopic] at hroom
    have hother : ∀ {b : Action}, b.topic = some topic → a ≠ b := by
      rintro b hb rfl
      exact htopic (Option.some.inj (hb.symm.trans (Action.topic_of_change h)))
    exact departed_of_room_eq hroom hends (hother rfl) (hother rfl)

/-- Nobody has left a room that is added. -/
theorem departed_addRoom {r : RoomState} (hr : r.leftSigners = ∅) :
    (s.reduce (.addRoom r)).Departed topic endpoint ↔ s.DepartsBy (.addRoom r) topic endpoint := by
  cases hroom : s.room topic with
  | some r' =>
    refine departed_of_room_eq ?_ id (fun h => by cases h) fun h => by cases h
    rw [room_addRoom, hroom]
    split_ifs <;> rfl
  | none =>
    refine iff_of_false ?_ ?_
    · rintro ⟨r', hr', hmem⟩
      rw [room_addRoom, hroom] at hr'
      split_ifs at hr'
      obtain rfl := Option.some.inj hr'
      rw [Option.getD_none, hr] at hmem
      cases hmem
    · rintro (⟨h, -⟩ | ⟨⟨r', hr', -⟩, -⟩)
      · cases h
      · cases hroom.symm.trans hr'

theorem departed_removeRoom (topic' : String) :
    (s.reduce (.removeRoom topic')).Departed topic endpoint ↔
      s.DepartsBy (.removeRoom topic') topic endpoint := by
  by_cases htopic : topic = topic'
  · refine iff_of_false ?_ ?_
    · rintro ⟨r, hr, -⟩
      rw [room_removeRoom, if_pos htopic] at hr
      cases hr
    · rintro (⟨h, -⟩ | ⟨-, h, -⟩)
      · cases h
      · exact h htopic.symm
  · refine departed_of_room_eq ?_ (fun h => htopic h.symm) (fun h => by cases h) fun h => by cases h
    rw [room_removeRoom, if_neg htopic]

/-- **Who has left after an action.** -/
theorem departed_reduce (ha : a.Allowed s) :
    (s.reduce a).Departed topic endpoint ↔ s.DepartsBy a topic endpoint := by
  cases a with
  | setInitial state =>
    refine iff_of_false ?_ ?_
    · rintro ⟨r, hr, hmem⟩
      rw [ha.leftSigners r (room_eq_some hr).1] at hmem
      cases hmem
    · rintro (⟨h, -⟩ | ⟨-, h, -⟩)
      · cases h
      · exact h trivial
  | addRoom r => exact departed_addRoom ha.2
  | removeRoom topic' => exact departed_removeRoom topic'
  | setActive | setJoinError =>
    exact departed_of_room_eq rfl id (fun h => by cases h) fun h => by cases h
  | _ => exact departed_of_change rfl

/-- The actions are such as callers keep to, each in its turn. -/
def AllAllowed (s : AppState) (actions : List Action) : Prop :=
  Guarded (total reduce) (fun s a => a.Allowed s) s actions

instance (s : AppState) (actions : List Action) : Decidable (s.AllAllowed actions) :=
  inferInstanceAs (Decidable (Guarded _ _ _ _))

/-- **Who has left a room**, from the actions. -/
theorem departed_iff {s₀ : AppState} {actions : List Action} (hs₀ : s₀.IsInitial)
    (hallowed : s₀.AllAllowed actions) :
    (actions.foldl reduce s₀).Departed topic endpoint ↔
      LeftSinceUp s₀ actions topic endpoint := by
  induction actions using List.reverseRecOn with
  | nil =>
    refine iff_of_false ?_ ?_
    · rintro ⟨r, hr, hmem⟩
      rw [hs₀.leftSigners r (room_eq_some hr).1] at hmem
      cases hmem
    · rintro ⟨pre, post, hsplit, -⟩
      exact absurd hsplit (by simp)
  | append_singleton actions a ih =>
    have ha : a.Allowed (actions.foldl reduce s₀) :=
      (Guarded.append_right hallowed (run_total s₀ actions)).1
    rw [List.foldl_append, leftSinceUp_concat, ← ih (Guarded.append_left hallowed)]
    exact departed_reduce ha

theorem room_neighborDown {r : RoomState} (hr : s.room topic = some r) :
    (s.reduce (.neighborDown topic endpoint)).room topic = some (r.neighborDown endpoint) := by
  rw [room_of_change rfl, if_pos rfl, hr]
  rfl

/-- **The invariants of the reducer**, in the state `s` after any actions: it is well formed; the
names that were pinned in a room that has stayed are as they were; an action for one topic leaves
all other rooms as they are; and `NeighborDown` has no message exactly if the peer has left since it
was last seen. -/
theorem reducer_invariants {s₀ : AppState} {actions : List Action} (hs₀ : s₀.IsInitial)
    (hallowed : s₀.AllAllowed actions) (hs : actions.foldl reduce s₀ = s) :
    s.IsWellFormed ∧
    (∀ pre post topic r, actions = pre ++ post → (pre.foldl reduce s₀).room topic = some r →
      (∀ a ∈ post, ¬ a.Ends topic) → ∃ r', s.room topic = some r' ∧ r.Pins r') ∧
    (∀ a topic, a.topic = some topic →
      (s.reduce a).rooms.filter (fun r => r.topicId ≠ topic) =
        s.rooms.filter fun r => r.topicId ≠ topic) ∧
    ∀ topic endpoint r, s.room topic = some r →
      ∃ r', (s.reduce (.neighborDown topic endpoint)).room topic = some r' ∧
        (LeftSinceUp s₀ actions topic endpoint → r'.messages = r.messages) ∧
        (¬ LeftSinceUp s₀ actions topic endpoint →
          r'.messages = r.messages ++ [r.disconnected endpoint]) := by
  subst hs
  refine ⟨?_, ?_, fun a topic => filter_rooms_reduce, fun topic endpoint r hr => ?_⟩
  · exact foldl_invariant_of_guarded (fun s a => isWellFormed_reduce) hs₀.toIsWellFormed hallowed
  · rintro pre post topic r rfl hr hstays
    rw [List.foldl_append]
    exact pins_foldl hr hstays
  · refine ⟨_, room_neighborDown hr, ?_⟩
    rw [← departed_iff hs₀ hallowed]
    have hdeparted : (actions.foldl reduce s₀).Departed topic endpoint ↔
        endpoint ∈ r.leftSigners := by
      rw [Departed, hr]
      simp
    rw [hdeparted, RoomState.neighborDown]
    constructor
    · intro hleft
      rw [if_pos hleft]
      rfl
    · intro hleft
      rw [if_neg hleft]
      rfl

section Sample

/-- A room that nobody else is in. -/
def emptyRoom : RoomState :=
  ⟨"room", .replicate 32 7, "talk", .hosting, [], [], ∅, false, [], ∅⟩

/-- A peer comes, says who it is and leaves; that its connection goes down is not shown again. -/
theorem reducer_invariants_sample :
    ∃ r, ([Action.addRoom emptyRoom, .neighborUp "room" "ab", .identify "room" "ab" "Bob",
        .peerLeft "room" "ab", .neighborDown "room" "ab"].foldl reduce
          ⟨[], none, "", none⟩).room "room" = some r ∧
      r.messages = [sysMsg "*** Bob joined", sysMsg "*** Bob left the room"] := by
  have hinitial : IsInitial ⟨[], none, "", none⟩ := by decide
  have hallowed : AllAllowed ⟨[], none, "", none⟩ [.addRoom emptyRoom, .neighborUp "room" "ab",
      .identify "room" "ab" "Bob", .peerLeft "room" "ab"] := by
    decide
  obtain ⟨-, -, -, hdown⟩ := reducer_invariants hinitial hallowed rfl
  obtain ⟨r, hr, hleft, -⟩ := hdown "room" "ab" _ rfl
  refine ⟨r, hr, (hleft ?_).trans rfl⟩
  exact ⟨[.addRoom emptyRoom, .neighborUp "room" "ab", .identify "room" "ab" "Bob"], [], rfl,
    by decide, fun a h => absurd h List.not_mem_nil⟩

end Sample

end AppState

end IrohWebRtc
