import IrohWebRtc.Browser.PumpWaits
import IrohWebRtc.Core.Config
import IrohWebRtc.Core.LocalIce
import IrohWebRtc.Lib.Rendezvous
import IrohWebRtc.Lib.Runs
import IrohWebRtc.Lib.Table

/-!
# The registry of peer connections

`browser/registry.rs`: the sessions of the browser by their keys, each with its peer connection,
its local ICE queue, and the two queues in which the data channels that the peer announces meet
the tasks that take them.

A session is counted when it is created, a task when it takes.  The cells of a session outlive it
as long as a task waits on them: `wait_next_data_channel` holds the queue in which it has put its
own sender.

## Meeting in order

Channels and tasks may come in any order, and each waits in a queue of its own if it is the first
to come.  That they meet in order is a fact about any two such queues (`Lib.Rendezvous`); what is
special here is that a channel which is closing is not handed over, and that a key may be used
again for a new session, whose queues are new.

## Closing

When a session closes, its entry goes from the table, and with it go the senders that would tell a
waiting task so: they stand in the queue that the task itself holds.  The task keeps its own
channel of news alive, and waits.  The error that the source has for this case is never returned.

* `takes_in_order`: the first channel goes to the first task, the second to the second.
* `closed_take_waits`: no task is told that its session has closed.
-/

namespace IrohWebRtc

/-- What the page offers: `rtc_peer_connection_available` and
`rtc_data_channel_constructor_available`. -/
structure RtcGlobals where
  rtcPeerConnection : Bool
  rtcDataChannel : Bool

def maxSessionKeyLen : ℕ := 1024

/-- `char::is_control`. -/
def isControl (c : Char) : Bool := c.val < 0x20 || (0x7f ≤ c.val && c.val < 0xa0)

def validateSessionKey (sessionKey : String) : Except Error Unit :=
  if sessionKey.isEmpty then .error (.invalidConfig "session key must not be empty")
  else if maxSessionKeyLen < sessionKey.utf8ByteSize then
    .error (.invalidConfig "session key is too long")
  else if sessionKey.toList.any isControl then
    .error (.invalidConfig "session key must not contain control characters")
  else .ok ()

namespace RtcDataChannelState

/-- `{state:?}`. -/
def debug : RtcDataChannelState → String
  | .connecting => "Connecting"
  | .open => "Open"
  | .closing => "Closing"
  | .closed => "Closed"

/-- A channel goes from each state to the later ones. -/
def rank : RtcDataChannelState → ℕ
  | .connecting => 0
  | .open => 1
  | .closing => 2
  | .closed => 3

theorem isClosing_iff {state : RtcDataChannelState} : state.isClosing = true ↔ 2 ≤ state.rank := by
  cases state <;> simp [isClosing, rank]

end RtcDataChannelState

def transferError (state : RtcDataChannelState) : Error :=
  .webRtc s!"RTCDataChannel cannot be transferred after it reaches {state.debug}"

def validateDataChannelTransferable (globals : RtcGlobals) (readyState : RtcDataChannelState) :
    Except Error Unit :=
  if globals.rtcDataChannel = false then .error .browserWebRtcUnavailable
  else if readyState.isClosing then .error (transferError readyState)
  else .ok ()

/-- `ice_config_from_js`. -/
def iceConfigFromJs (stunUrls : Option (List String)) : Except Error WebRtcIceConfig :=
  match stunUrls with
  | none | some [] => .ok .defaultDirectStun
  | some (url :: urls) => WebRtcIceConfig.directOnly (url :: urls)

/-- A session, with what has come to it so far. -/
structure BrowserRtcSession where
  /-- The peer connection was closed. -/
  peerClosed : Bool
  localIce : LocalIceQueue
  /-- `incoming_data_channels` and `incoming_data_channel_waiters`. -/
  incoming : Rendezvous ℕ ℕ
  /-- All channels that were announced and could be transferred. -/
  announced : List ℕ
  /-- All tasks that came for a channel. -/
  takers : List ℕ

namespace BrowserRtcSession

def new : BrowserRtcSession where
  peerClosed := false
  localIce := .withCapacity defaultLocalIceQueueCapacity
  incoming := .empty
  announced := []
  takers := []

/-- `peer.close()` and `local_ice.close()`. -/
def close (session : BrowserRtcSession) : BrowserRtcSession :=
  { session with peerClosed := true, localIce := session.localIce.close.1 }

def put (session : BrowserRtcSession) (channel : ℕ) : BrowserRtcSession :=
  { session with
    incoming := (session.incoming.put channel).2
    announced := session.announced ++ [channel] }

def take (session : BrowserRtcSession) (taker : ℕ) : BrowserRtcSession :=
  { session with
    incoming := (session.incoming.take taker).2
    takers := session.takers ++ [taker] }

end BrowserRtcSession

/-- A task's `take_data_channel`. -/
inductive TakeState where
  /-- It waits on the queue of this session, and holds it. -/
  | waiting (session : ℕ)
  | returned (result : Except Error ℕ)

/-- The task holds the queue of the session. -/
def TakeState.holds (i : ℕ) : TakeState → Bool
  | .waiting j => i = j
  | .returned _ => false

/-- The registry, the sessions it has created, the tasks that came to take, and the data channels
of the browser. -/
structure BrowserRtcRegistry where
  sessions : Table String ℕ
  created : ℕ → BrowserRtcSession
  count : ℕ
  takes : List TakeState
  readyState : ℕ → RtcDataChannelState

inductive BrowserRtcEvent where
  /-- `create_peer_connection`, with what the browser answers to the configuration and to the new
  peer connection. -/
  | create (sessionKey : String) (stunUrls : Option (List String)) (made : Except Error Unit)
  /-- `close_peer_connection`. -/
  | close (sessionKey : String)
  /-- The peer connection of a session has an ICE event. -/
  | iceCandidate (i : ℕ) (event : LocalIceEvent)
  /-- `next_local_ice` polls. -/
  | pollLocalIce (i : ℕ) (cx : Waker)
  /-- The peer connection of a session announces a data channel. -/
  | announce (i channel : ℕ)
  /-- `take_data_channel`, up to its await. -/
  | take (sessionKey : String)
  /-- Nothing holds the queue of a session any more. -/
  | release (i : ℕ)
  /-- A data channel opens or closes. -/
  | progress (channel : ℕ) (readyState : RtcDataChannelState)

namespace BrowserRtcRegistry

/-- No session, and data channels that connect. -/
def new : BrowserRtcRegistry := ⟨∅, fun _ => .new, 0, [], fun _ => .connecting⟩

section Registry

variable (globals : RtcGlobals) (registry : BrowserRtcRegistry)

def setSession (i : ℕ) (session : BrowserRtcSession) : BrowserRtcRegistry :=
  { registry with created := Function.update registry.created i session }

/-- What `create_peer_connection` checks before it inserts the session. -/
def checkCreate (sessionKey : String) (stunUrls : Option (List String))
    (made : Except Error Unit) : Except Error Unit := do
  if globals.rtcPeerConnection = false then throw .browserWebRtcUnavailable
  validateSessionKey sessionKey
  if (registry.sessions.lookup sessionKey).isSome then
    throw (.invalidConfig "duplicate WebRTC session key")
  let iceConfig ← iceConfigFromJs stunUrls
  iceConfig.validateDirectOnly
  made

def createPeerConnection (sessionKey : String) (stunUrls : Option (List String))
    (made : Except Error Unit) : Except Error Unit × BrowserRtcRegistry :=
  match registry.checkCreate globals sessionKey stunUrls made with
  | .error error => (.error error, registry)
  | .ok () =>
    (.ok (), { registry.setSession registry.count .new with
      sessions := registry.sessions.insert sessionKey registry.count
      count := registry.count + 1 })

/-- `try_close_peer_connection`. -/
def closePeerConnection (sessionKey : String) : Except Error Unit × BrowserRtcRegistry :=
  match validateSessionKey sessionKey with
  | .error error => (.error error, registry)
  | .ok () =>
    match registry.sessions.lookup sessionKey with
    | none => (.ok (), registry)
    | some i => (.ok (), { registry.setSession i (registry.created i).close with
        sessions := registry.sessions.erase sessionKey })

/-- A channel comes to a session: the first task that waits gets it. -/
def put (i channel : ℕ) : BrowserRtcRegistry :=
  { registry.setSession i ((registry.created i).put channel) with
    takes := match ((registry.created i).incoming.put channel).1 with
      | none => registry.takes
      | some taker => registry.takes.set taker (.returned (.ok channel)) }

/-- The handler of a session for the data channels that its peer announces. -/
def announce (i channel : ℕ) : BrowserRtcRegistry :=
  match validateDataChannelTransferable globals (registry.readyState channel) with
  | .error _ => registry
  | .ok () => registry.put i channel

/-- What `try_take_next_data_channel` makes of a channel that was queued. -/
def taken (channel : ℕ) : TakeState :=
  match validateDataChannelTransferable globals (registry.readyState channel) with
  | .error error => .returned (.error error)
  | .ok () => .returned (.ok channel)

/-- A task that comes to a session. -/
def takeFrom (i : ℕ) : BrowserRtcRegistry :=
  { registry.setSession i ((registry.created i).take registry.takes.length) with
    takes := registry.takes ++
      [match ((registry.created i).incoming.take registry.takes.length).1 with
        | none => .waiting i
        | some channel => registry.taken globals channel] }

/-- A task that does not come to a session. -/
def refuse (error : Error) : BrowserRtcRegistry :=
  { registry with takes := registry.takes ++ [.returned (.error error)] }

/-- `wait_next_data_channel`, up to its await. -/
def takeDataChannel (sessionKey : String) : BrowserRtcRegistry :=
  match validateSessionKey sessionKey with
  | .error error => registry.refuse error
  | .ok () =>
    match registry.sessions.lookup sessionKey with
    | none => registry.refuse .unknownSession
    | some i => registry.takeFrom globals i

/-- The registry has the session, or a task waits on its queue. -/
def Held (i : ℕ) : Prop := i ∈ registry.sessions.values ∨ registry.takes.any (TakeState.holds i)

instance (i : ℕ) : Decidable (registry.Held i) := inferInstanceAs (Decidable (_ ∨ _))

/-- The senders that are left in the queue of a session go with it, and their tasks are told. -/
def release (i : ℕ) : BrowserRtcRegistry :=
  { registry with
    takes := (registry.created i).incoming.takers.foldl
      (fun takes taker => takes.set taker (.returned (.error .sessionClosed))) registry.takes }

/-- The handlers of a session live as long as the registry has it. -/
def step : BrowserRtcEvent → Option BrowserRtcRegistry
  | .create sessionKey stunUrls made =>
    some (registry.createPeerConnection globals sessionKey stunUrls made).2
  | .close sessionKey => some (registry.closePeerConnection sessionKey).2
  | .iceCandidate i event =>
    if i ∈ registry.sessions.values then
      some (registry.setSession i { registry.created i with
        localIce := ((registry.created i).localIce.push event).2 })
    else none
  | .pollLocalIce i cx =>
    if i < registry.count then
      some (registry.setSession i { registry.created i with
        localIce := ((registry.created i).localIce.pollNext cx).2 })
    else none
  | .announce i channel =>
    if i ∈ registry.sessions.values then some (registry.announce globals i channel) else none
  | .take sessionKey => some (registry.takeDataChannel globals sessionKey)
  | .release i => if registry.Held i then none else some (registry.release i)
  | .progress channel readyState =>
    if (registry.readyState channel).rank < readyState.rank then
      some { registry with readyState := Function.update registry.readyState channel readyState }
    else none

end Registry

variable {globals : RtcGlobals} {registry registry' : BrowserRtcRegistry}

@[simp] theorem created_setSession_self (i : ℕ) (session : BrowserRtcSession) :
    (registry.setSession i session).created i = session := Function.update_self _ _ _

theorem created_setSession_of_ne {i j : ℕ} (h : j ≠ i) (session : BrowserRtcSession) :
    (registry.setSession i session).created j = registry.created j := Function.update_of_ne h _ _

/-! ## Channels and tasks -/

/-- What has become of the task `t`, the one that came to the session `i` after `k` others. -/
def Outcome (registry : BrowserRtcRegistry) (i k t : ℕ) : Prop :=
  match (registry.created i).announced[k]? with
  | none => registry.takes[t]? = some (.waiting i)
  | some channel =>
    registry.takes[t]? = some (.returned (.ok channel)) ∨
      (registry.readyState channel).isClosing = true ∧ ∃ state, state.isClosing = true ∧
        registry.takes[t]? = some (.returned (.error (transferError state)))

/-- **What holds of the queues of the sessions.** -/
structure Queues (globals : RtcGlobals) (registry : BrowserRtcRegistry) : Prop where
  meets : ∀ i, (registry.created i).incoming.Meets (registry.created i).announced
    (registry.created i).takers
  available : ∀ i, (registry.created i).announced ≠ [] → globals.rtcDataChannel = true
  unique : ∀ {i j k l t : ℕ}, (registry.created i).takers[k]? = some t →
    (registry.created j).takers[l]? = some t → i = j ∧ k = l
  outcome : ∀ {i k t : ℕ}, (registry.created i).takers[k]? = some t → registry.Outcome i k t
  waiting : ∀ {i t : ℕ}, registry.takes[t]? = some (.waiting i) →
    ∃ k : ℕ, (registry.created i).takers[k]? = some t
  returned : ∀ {t channel : ℕ}, registry.takes[t]? = some (.returned (.ok channel)) →
    ∃ i k : ℕ, (registry.created i).takers[k]? = some t
  untold : ∀ t : ℕ, registry.takes[t]? ≠ some (.returned (.error .sessionClosed))

theorem queues_new : (new : BrowserRtcRegistry).Queues globals where
  meets := fun _ => Rendezvous.meets_empty
  available := fun _ h => absurd rfl h
  unique := fun h => by cases h
  outcome := fun h => by cases h
  waiting := fun h => by cases h
  returned := fun h => by cases h
  untold := fun _ h => by cases h

/-- The task exists. -/
theorem Outcome.lt {i k t : ℕ} (h : registry.Outcome i k t) : t < registry.takes.length := by
  rw [Outcome] at h
  split at h
  · exact (List.getElem?_eq_some_iff.mp h).1
  · rcases h with h | ⟨-, state, -, h⟩
    · exact (List.getElem?_eq_some_iff.mp h).1
    · exact (List.getElem?_eq_some_iff.mp h).1

theorem Outcome.congr {i k t : ℕ} (h : registry.Outcome i k t)
    (hannounced : (registry'.created i).announced[k]? = (registry.created i).announced[k]?)
    (htakes : registry'.takes[t]? = registry.takes[t]?)
    (hready : ∀ channel, (registry.readyState channel).isClosing = true →
      (registry'.readyState channel).isClosing = true) : registry'.Outcome i k t := by
  rw [Outcome] at h ⊢
  rw [hannounced, htakes]
  split at h
  · exact h
  · exact h.imp_right fun hclosing => ⟨hready _ hclosing.1, hclosing.2⟩

/-- Only the queues matter, and the channels may go on. -/
theorem Queues.congr (h : registry.Queues globals)
    (hcreated : ∀ i, (registry'.created i).incoming = (registry.created i).incoming ∧
      (registry'.created i).announced = (registry.created i).announced ∧
      (registry'.created i).takers = (registry.created i).takers)
    (htakes : registry'.takes = registry.takes)
    (hready : ∀ channel, (registry.readyState channel).isClosing = true →
      (registry'.readyState channel).isClosing = true) : registry'.Queues globals where
  meets := fun i => by
    obtain ⟨hincoming, hannounced, htakers⟩ := hcreated i
    rw [hincoming, hannounced, htakers]
    exact h.meets i
  available := fun i hne => h.available i (by rwa [(hcreated i).2.1] at hne)
  unique := fun {i j k l t} hi hj => by
    rw [(hcreated i).2.2] at hi
    rw [(hcreated j).2.2] at hj
    exact h.unique hi hj
  outcome := fun {i k t} ht => by
    rw [(hcreated i).2.2] at ht
    exact (h.outcome ht).congr (by rw [(hcreated i).2.1]) (by rw [htakes]) hready
  waiting := fun {i t} ht => by
    rw [htakes] at ht
    rw [(hcreated i).2.2]
    exact h.waiting ht
  returned := fun {t channel} ht => by
    rw [htakes] at ht
    obtain ⟨i, k, hk⟩ := h.returned ht
    exact ⟨i, k, by rwa [(hcreated i).2.2]⟩
  untold := fun t => by
    rw [htakes]
    exact h.untold t

/-- A session whose queues are as they were. -/
theorem Queues.setSession (h : registry.Queues globals) {i : ℕ} {session : BrowserRtcSession}
    (hincoming : session.incoming = (registry.created i).incoming)
    (hannounced : session.announced = (registry.created i).announced)
    (htakers : session.takers = (registry.created i).takers) :
    (registry.setSession i session).Queues globals := by
  refine h.congr (fun j => ?_) rfl fun _ hclosing => hclosing
  by_cases hj : j = i
  · subst hj
    rw [created_setSession_self]
    exact ⟨hincoming, hannounced, htakers⟩
  · rw [created_setSession_of_ne hj]
    exact ⟨rfl, rfl, rfl⟩

/-- All but the last place of a list that grows. -/
theorem getElem?_concat_of_ne {l : List ℕ} {k : ℕ} (h : k ≠ l.length) (c : ℕ) :
    (l ++ [c])[k]? = l[k]? := by
  rcases Nat.lt_or_gt_of_ne h with hlt | hgt
  · exact List.getElem?_append_left hlt
  · rw [List.getElem?_eq_none (Nat.le_of_lt hgt), List.getElem?_eq_none]
    rw [List.length_append]
    exact hgt

theorem getElem?_concat_eq_some {α : Type*} {l : List α} {a b : α} {k : ℕ}
    (h : (l ++ [a])[k]? = some b) : l[k]? = some b ∨ k = l.length ∧ a = b := by
  rcases Nat.lt_trichotomy k l.length with hlt | rfl | hgt
  · exact Or.inl (List.getElem?_append_left hlt ▸ h)
  · rw [List.getElem?_concat_length] at h
    exact Or.inr ⟨rfl, Option.some.inj h⟩
  · rw [List.getElem?_eq_none] at h
    · cases h
    · rw [List.length_append]
      exact hgt

/-- The task to which a channel goes, and no other, is told. -/
theorem getElem?_told {takes : List TakeState} {told : Option ℕ} {state : TakeState} {t : ℕ}
    (hlt : t < takes.length) :
    (match told with
      | none => takes
      | some taker => takes.set taker state)[t]? =
      if told = some t then some state else takes[t]? := by
  cases told with
  | none => rfl
  | some taker =>
    show (takes.set taker state)[t]? = _
    by_cases ht : taker = t
    · rw [ht, if_pos rfl, List.getElem?_set_self hlt]
    · rw [if_neg (fun heq => ht (Option.some.inj heq)), List.getElem?_set_ne ht]

section Put

variable {i channel : ℕ}

theorem takers_put (j : ℕ) :
    ((registry.put i channel).created j).takers = (registry.created j).takers := by
  by_cases hj : j = i
  · show ((registry.setSession i _).created j).takers = _
    rw [hj, created_setSession_self]
    rfl
  · show ((registry.setSession i _).created j).takers = _
    rw [created_setSession_of_ne hj]

theorem announced_put_of_ne {j k : ℕ}
    (h : ¬ (j = i ∧ k = (registry.created i).announced.length)) :
    ((registry.put i channel).created j).announced[k]? =
      (registry.created j).announced[k]? := by
  show ((registry.setSession i _).created j).announced[k]? = _
  by_cases hj : j = i
  · rw [hj, created_setSession_self]
    exact getElem?_concat_of_ne (fun hk => h ⟨hj, hk⟩) channel
  · rw [created_setSession_of_ne hj]

theorem Queues.put (h : registry.Queues globals) (havailable : globals.rtcDataChannel = true) :
    (registry.put i channel).Queues globals := by
  obtain ⟨hmeets, hput⟩ := (h.meets i).put channel
  have htakes : ∀ {t : ℕ}, t < registry.takes.length →
      (registry.put i channel).takes[t]? =
        if (registry.created i).takers[(registry.created i).announced.length]? = some t then
          some (.returned (.ok channel)) else registry.takes[t]? := by
    intro t ht
    rw [← hput]
    exact getElem?_told ht
  have hlength : (registry.put i channel).takes.length = registry.takes.length := by
    show (match ((registry.created i).incoming.put channel).1 with
      | none => registry.takes
      | some taker => registry.takes.set taker (.returned (.ok channel))).length = _
    split
    · rfl
    · exact List.length_set
  have hbefore : ∀ {t : ℕ} {state : TakeState}, state ≠ .returned (.ok channel) →
      (registry.put i channel).takes[t]? = some state → registry.takes[t]? = some state := by
    intro t state hne ht
    have hlt := (List.getElem?_eq_some_iff.mp ht).1
    rw [htakes (hlength ▸ hlt)] at ht
    split_ifs at ht
    · exact absurd (Option.some.inj ht).symm hne
    · exact ht
  refine ⟨fun j => ?_, fun _ _ => havailable, fun {j j' k l t} hj hj' => ?_, fun {j k t} hk => ?_,
    fun {j t} ht => ?_, fun {t channel'} ht => ?_, fun t ht => ?_⟩
  · by_cases hj : j = i
    · show ((registry.setSession i _).created j).incoming.Meets _ _
      rw [hj]
      show ((registry.setSession i _).created i).incoming.Meets
        ((registry.setSession i _).created i).announced
        ((registry.setSession i _).created i).takers
      rw [created_setSession_self]
      exact hmeets
    · show ((registry.setSession i _).created j).incoming.Meets
        ((registry.setSession i _).created j).announced
        ((registry.setSession i _).created j).takers
      rw [created_setSession_of_ne hj]
      exact h.meets j
  · rw [takers_put] at hj hj'
    exact h.unique hj hj'
  · rw [takers_put] at hk
    have hlt := (h.outcome hk).lt
    by_cases hlast : j = i ∧ k = (registry.created i).announced.length
    · obtain ⟨rfl, rfl⟩ := hlast
      have hchannel : ((registry.put j channel).created j).announced[
          (registry.created j).announced.length]? = some channel := by
        show ((registry.setSession j _).created j).announced[_]? = _
        rw [created_setSession_self]
        exact List.getElem?_concat_length
      rw [Outcome, hchannel]
      exact Or.inl ((htakes hlt).trans (if_pos hk))
    · refine (h.outcome hk).congr (announced_put_of_ne hlast) ?_ fun _ hclosing => hclosing
      exact (htakes hlt).trans (if_neg fun heq => hlast (h.unique hk heq))
  · obtain ⟨k, hk⟩ := h.waiting (hbefore (fun heq => by cases heq) ht)
    exact ⟨k, by rwa [takers_put]⟩
  · have hlt := (List.getElem?_eq_some_iff.mp ht).1
    rw [htakes (hlength ▸ hlt)] at ht
    split_ifs at ht with htold
    · exact ⟨i, _, by rwa [takers_put]⟩
    · obtain ⟨j, k, hk⟩ := h.returned ht
      exact ⟨j, k, by rwa [takers_put]⟩
  · exact h.untold t (hbefore (fun heq => by cases heq) ht)

end Put

/-- **A channel is announced.**  It goes to the first task that waits, if there is one. -/
theorem Queues.announce (h : registry.Queues globals) (i channel : ℕ) :
    (registry.announce globals i channel).Queues globals := by
  rw [BrowserRtcRegistry.announce]
  cases hvalid : validateDataChannelTransferable globals (registry.readyState channel) with
  | error error => exact h
  | ok _ =>
    refine h.put ?_
    rw [validateDataChannelTransferable] at hvalid
    split_ifs at hvalid with hnone
    exact Bool.not_eq_false _ ▸ hnone

section Take

variable {i : ℕ}

theorem announced_takeFrom (j : ℕ) :
    ((registry.takeFrom globals i).created j).announced = (registry.created j).announced := by
  show ((registry.setSession i _).created j).announced = _
  by_cases hj : j = i
  · rw [hj, created_setSession_self]
    rfl
  · rw [created_setSession_of_ne hj]

theorem takers_takeFrom (j : ℕ) :
    ((registry.takeFrom globals i).created j).takers =
      if j = i then (registry.created i).takers ++ [registry.takes.length]
      else (registry.created j).takers := by
  show ((registry.setSession i _).created j).takers = _
  split_ifs with hj
  · rw [hj, created_setSession_self]
    rfl
  · rw [created_setSession_of_ne hj]

/-- The places of the tasks, with the one that has come. -/
theorem takers_takeFrom_eq_some {j k t : ℕ}
    (h : ((registry.takeFrom globals i).created j).takers[k]? = some t) :
    (registry.created j).takers[k]? = some t ∨
      j = i ∧ k = (registry.created i).takers.length ∧ t = registry.takes.length := by
  rw [takers_takeFrom] at h
  split_ifs at h with hj
  · subst hj
    by_cases hk : k = (registry.created j).takers.length
    · rw [hk, List.getElem?_concat_length] at h
      exact Or.inr ⟨rfl, hk, (Option.some.inj h).symm⟩
    · rw [getElem?_concat_of_ne hk] at h
      exact Or.inl h
  · exact Or.inl h

theorem takers_takeFrom_of_some {j k t : ℕ} (h : (registry.created j).takers[k]? = some t) :
    ((registry.takeFrom globals i).created j).takers[k]? = some t := by
  rw [takers_takeFrom]
  split_ifs with hj
  · subst hj
    rwa [getElem?_concat_of_ne (Nat.ne_of_lt (List.getElem?_eq_some_iff.mp h).1)]
  · exact h

/-- **A task comes to a session.**  It gets the first channel that is queued, if there is one. -/
theorem Queues.takeFrom (h : registry.Queues globals) (i : ℕ) :
    (registry.takeFrom globals i).Queues globals := by
  obtain ⟨hmeets, htake⟩ := (h.meets i).take registry.takes.length
  have hnew : (registry.takeFrom globals i).takes[registry.takes.length]? =
      some (match (registry.created i).announced[(registry.created i).takers.length]? with
        | none => .waiting i
        | some channel => registry.taken globals channel) := by
    rw [← htake]
    exact List.getElem?_concat_length
  have hold : ∀ {t : ℕ}, t < registry.takes.length →
      (registry.takeFrom globals i).takes[t]? = registry.takes[t]? :=
    fun ht => List.getElem?_append_left ht
  have hlast : ((registry.takeFrom globals i).created i).takers[
      (registry.created i).takers.length]? = some registry.takes.length := by
    rw [takers_takeFrom, if_pos rfl]
    exact List.getElem?_concat_length
  have hsplit : ∀ {t : ℕ} {state : TakeState},
      (registry.takeFrom globals i).takes[t]? = some state →
        registry.takes[t]? = some state ∨ t = registry.takes.length := by
    intro t state ht
    exact (getElem?_concat_eq_some ht).imp_right fun hlast => hlast.1
  refine ⟨fun j => ?_, fun j hne => ?_, fun {j j' k l t} hj hj' => ?_, fun {j k t} hk => ?_,
    fun {j t} ht => ?_, fun {t channel} ht => ?_, fun t ht => ?_⟩
  · show ((registry.setSession i _).created j).incoming.Meets
      ((registry.setSession i _).created j).announced ((registry.setSession i _).created j).takers
    by_cases hj : j = i
    · rw [hj, created_setSession_self]
      exact hmeets
    · rw [created_setSession_of_ne hj]
      exact h.meets j
  · rw [announced_takeFrom] at hne
    exact h.available j hne
  · rcases takers_takeFrom_eq_some hj with hk | ⟨rfl, rfl, rfl⟩ <;>
      rcases takers_takeFrom_eq_some hj' with hl | ⟨rfl, rfl, ht⟩
    · exact h.unique hk hl
    · rw [ht] at hk
      exact absurd (h.outcome hk).lt (Nat.lt_irrefl _)
    · exact absurd (h.outcome hl).lt (Nat.lt_irrefl _)
    · exact ⟨rfl, rfl⟩
  · rcases takers_takeFrom_eq_some hk with hk | ⟨rfl, rfl, rfl⟩
    · exact (h.outcome hk).congr (by rw [announced_takeFrom]) (hold (h.outcome hk).lt)
        fun _ hclosing => hclosing
    · rw [Outcome, announced_takeFrom, hnew]
      cases hchannel : (registry.created j).announced[(registry.created j).takers.length]? with
      | none => rfl
      | some channel =>
        have havailable : globals.rtcDataChannel = true := by
          refine h.available j fun hnil => ?_
          rw [hnil] at hchannel
          cases hchannel
        show some (registry.taken globals channel) = _ ∨ _ ∧ ∃ state, _ ∧
          some (registry.taken globals channel) = _
        rw [taken, validateDataChannelTransferable, if_neg (by simp [havailable])]
        cases hclosing : (registry.readyState channel).isClosing with
        | false => exact Or.inl rfl
        | true => exact Or.inr ⟨hclosing, _, hclosing, rfl⟩
  · rcases hsplit ht with hbefore | rfl
    · obtain ⟨k, hk⟩ := h.waiting hbefore
      exact ⟨k, takers_takeFrom_of_some hk⟩
    · rw [hnew] at ht
      have hstate := Option.some.inj ht
      split at hstate
      · obtain rfl := TakeState.waiting.inj hstate
        exact ⟨_, hlast⟩
      · rw [taken] at hstate
        split at hstate <;> cases hstate
  · rcases hsplit ht with hbefore | rfl
    · obtain ⟨j, k, hk⟩ := h.returned hbefore
      exact ⟨j, k, takers_takeFrom_of_some hk⟩
    · exact ⟨i, _, hlast⟩
  · rcases hsplit ht with hbefore | rfl
    · exact h.untold t hbefore
    · rw [hnew] at ht
      have hstate := Option.some.inj ht
      split at hstate
      · cases hstate
      · rw [taken, validateDataChannelTransferable] at hstate
        split_ifs at hstate <;> cases hstate

end Take

/-- A task that is refused comes to no session. -/
theorem Queues.refuse (h : registry.Queues globals) {error : Error}
    (herror : error ≠ .sessionClosed) : (registry.refuse error).Queues globals := by
  have hold : ∀ {t : ℕ}, t < registry.takes.length →
      (registry.refuse error).takes[t]? = registry.takes[t]? :=
    fun ht => List.getElem?_append_left ht
  have hbefore : ∀ {t : ℕ} {state : TakeState}, state ≠ .returned (.error error) →
      (registry.refuse error).takes[t]? = some state → registry.takes[t]? = some state := by
    intro t state hne ht
    exact (getElem?_concat_eq_some ht).resolve_right fun hlast => hne hlast.2.symm
  refine ⟨h.meets, h.available, h.unique, fun {i k t} hk => ?_, fun {i t} ht => ?_,
    fun {t channel} ht => ?_, fun t ht => ?_⟩
  · exact (h.outcome hk).congr rfl (hold (h.outcome hk).lt) fun _ hclosing => hclosing
  · exact h.waiting (hbefore (fun heq => by cases heq) ht)
  · exact h.returned (hbefore (fun heq => by cases heq) ht)
  · refine h.untold t (hbefore (fun heq => herror ?_) ht)
    cases heq
    rfl

/-- The sender that a task has put in the queue of a session is one that the task itself holds. -/
theorem Queues.takers_eq_nil (h : registry.Queues globals) {i : ℕ} (hheld : ¬ registry.Held i) :
    (registry.created i).incoming.takers = [] := by
  refine List.eq_nil_iff_forall_not_mem.mpr fun t ht => ?_
  obtain ⟨k, hk, hnone⟩ := (h.meets i).mem_takers_iff.mp ht
  have houtcome := h.outcome hk
  rw [Outcome, hnone] at houtcome
  refine hheld (Or.inr (List.any_eq_true.mpr ⟨_, List.mem_of_getElem? houtcome, ?_⟩))
  simp [TakeState.holds]

/-- **So no sender is dropped.** -/
theorem Queues.release_eq (h : registry.Queues globals) {i : ℕ} (hheld : ¬ registry.Held i) :
    registry.release i = registry := by
  rw [release, h.takers_eq_nil hheld]
  rfl

theorem validateSessionKey_ne (sessionKey : String) {error : Error}
    (h : validateSessionKey sessionKey = .error error) : error ≠ .sessionClosed := by
  rintro rfl
  rw [validateSessionKey] at h
  split_ifs at h <;> cases h

theorem Queues.takeDataChannel (h : registry.Queues globals) (sessionKey : String) :
    (registry.takeDataChannel globals sessionKey).Queues globals := by
  rw [BrowserRtcRegistry.takeDataChannel]
  split
  · rename_i error herror
    exact h.refuse (validateSessionKey_ne sessionKey herror)
  · split
    · exact h.refuse fun heq => by cases heq
    · exact h.takeFrom _

theorem Queues.progress (h : registry.Queues globals) {channel : ℕ}
    {readyState : RtcDataChannelState}
    (hlater : (registry.readyState channel).rank < readyState.rank) :
    ({ registry with readyState := Function.update registry.readyState channel readyState } :
      BrowserRtcRegistry).Queues globals := by
  refine h.congr (fun _ => ⟨rfl, rfl, rfl⟩) rfl fun other hclosing => ?_
  show (Function.update registry.readyState channel readyState other).isClosing = true
  by_cases hother : other = channel
  · subst hother
    rw [Function.update_self]
    rw [RtcDataChannelState.isClosing_iff] at hclosing ⊢
    exact hclosing.trans hlater.le
  · rwa [Function.update_of_ne hother]

/-! ## Sessions -/

/-- **What holds of the peer connections.**  The registry has exactly the sessions whose peer
connection is open, each under one key. -/
structure Peers (registry : BrowserRtcRegistry) : Prop where
  lt : ∀ {sessionKey : String} {i : ℕ}, registry.sessions.lookup sessionKey = some i →
    i < registry.count
  unique : ∀ {sessionKey sessionKey' : String} {i : ℕ},
    registry.sessions.lookup sessionKey = some i →
      registry.sessions.lookup sessionKey' = some i → sessionKey = sessionKey'
  fresh : ∀ i, registry.count ≤ i → registry.created i = .new
  closed : ∀ i < registry.count,
    ((registry.created i).peerClosed = true ↔ i ∉ registry.sessions.values) ∧
      (registry.created i).localIce.closed = (registry.created i).peerClosed

theorem peers_new : (new : BrowserRtcRegistry).Peers where
  lt := fun h => by cases h
  unique := fun h => by cases h
  fresh := fun _ _ => rfl
  closed := fun i hi => absurd hi (Nat.not_lt_zero i)

theorem Peers.lt_of_mem (h : registry.Peers) {i : ℕ} (hi : i ∈ registry.sessions.values) :
    i < registry.count := by
  obtain ⟨sessionKey, hlookup⟩ := Table.mem_values.mp hi
  exact h.lt hlookup

/-- A session of which neither the peer connection nor the ICE queue is closed or opened. -/
theorem Peers.setSession (h : registry.Peers) {i : ℕ} (hi : i < registry.count)
    {session : BrowserRtcSession} (hpeer : session.peerClosed = (registry.created i).peerClosed)
    (hice : session.localIce.closed = (registry.created i).localIce.closed) :
    (registry.setSession i session).Peers where
  lt := h.lt
  unique := h.unique
  fresh := fun j hj => by
    have hne : j ≠ i := (Nat.ne_of_lt (hi.trans_le hj)).symm
    exact (created_setSession_of_ne hne session).trans (h.fresh j hj)
  closed := fun j hj => by
    by_cases hji : j = i
    · subst hji
      rw [created_setSession_self, hpeer, hice]
      exact h.closed j hj
    · rw [created_setSession_of_ne hji]
      exact h.closed j hj

/-- The tasks and the data channels do not matter. -/
theorem Peers.congr (h : registry.Peers) (hsessions : registry'.sessions = registry.sessions)
    (hcreated : registry'.created = registry.created) (hcount : registry'.count = registry.count) :
    registry'.Peers where
  lt := fun hlookup => by
    rw [hcount]
    exact h.lt (hsessions ▸ hlookup)
  unique := fun hi hj => h.unique (hsessions ▸ hi) (hsessions ▸ hj)
  fresh := fun i hi => by
    rw [hcreated]
    exact h.fresh i (hcount ▸ hi)
  closed := fun i hi => by
    rw [hcreated, hsessions]
    exact h.closed i (hcount ▸ hi)

theorem closed_push (queue : LocalIceQueue) (event : LocalIceEvent) :
    (queue.push event).2.closed = queue.closed := by
  rw [LocalIceQueue.push]
  split_ifs <;> rfl

theorem closed_pollNext (queue : LocalIceQueue) (cx : Waker) :
    (queue.pollNext cx).2.closed = queue.closed := by
  rw [LocalIceQueue.pollNext]
  split
  · rfl
  · split_ifs <;> rfl

theorem lookup_of_checkCreate {sessionKey : String} {stunUrls : Option (List String)}
    {made : Except Error Unit}
    (h : registry.checkCreate globals sessionKey stunUrls made = .ok ()) :
    registry.sessions.lookup sessionKey = none := by
  rw [checkCreate] at h
  cases hlookup : registry.sessions.lookup sessionKey with
  | none => rfl
  | some i =>
    rw [hlookup] at h
    by_cases havailable : globals.rtcPeerConnection = false
    · rw [if_pos havailable] at h
      cases h
    · rw [if_neg havailable] at h
      cases hkey : validateSessionKey sessionKey with
      | error error =>
        rw [hkey] at h
        cases h
      | ok _ =>
        rw [hkey] at h
        cases h

/-- **A session is created.**  It takes no other's place. -/
theorem Peers.create (h : registry.Peers) {sessionKey : String}
    (hnone : registry.sessions.lookup sessionKey = none) :
    ({ registry.setSession registry.count .new with
      sessions := registry.sessions.insert sessionKey registry.count
      count := registry.count + 1 } : BrowserRtcRegistry).Peers := by
  have hcreated : (registry.setSession registry.count .new).created = registry.created := by
    show Function.update registry.created registry.count .new = registry.created
    rw [← h.fresh registry.count le_rfl, Function.update_eq_self]
  have hmem : ∀ i, i ∈ Table.values (registry.sessions.insert sessionKey registry.count) ↔
      i = registry.count ∨ i ∈ registry.sessions.values := by
    intro i
    simp only [Table.mem_values, Table.lookup_insert_eq]
    constructor
    · rintro ⟨sessionKey', hlookup⟩
      split_ifs at hlookup
      · exact Or.inl (Option.some.inj hlookup).symm
      · exact Or.inr ⟨sessionKey', hlookup⟩
    · rintro (rfl | ⟨sessionKey', hlookup⟩)
      · exact ⟨sessionKey, if_pos rfl⟩
      · refine ⟨sessionKey', (if_neg ?_).trans hlookup⟩
        rintro rfl
        rw [hnone] at hlookup
        cases hlookup
  refine ⟨fun {sessionKey' i} hlookup => ?_, fun {sessionKey' sessionKey'' i} hi hi' => ?_,
    fun i hi => ?_, fun i hi => ?_⟩
  · rw [Table.lookup_insert_eq] at hlookup
    split_ifs at hlookup
    · rw [← Option.some.inj hlookup]
      exact Nat.lt_succ_self _
    · exact (h.lt hlookup).trans (Nat.lt_succ_self _)
  · rw [Table.lookup_insert_eq] at hi hi'
    split_ifs at hi hi' with hkey hkey' hkey'
    · exact hkey.trans hkey'.symm
    · obtain rfl := Option.some.inj hi
      exact absurd (h.lt hi') (Nat.lt_irrefl _)
    · obtain rfl := Option.some.inj hi'
      exact absurd (h.lt hi) (Nat.lt_irrefl _)
    · exact h.unique hi hi'
  · show (registry.setSession registry.count .new).created i = .new
    rw [hcreated]
    exact h.fresh i ((Nat.le_succ _).trans hi)
  · show (((registry.setSession registry.count .new).created i).peerClosed = true ↔
      i ∉ Table.values (registry.sessions.insert sessionKey registry.count)) ∧ _ =
        ((registry.setSession registry.count .new).created i).peerClosed
    rw [hcreated, hmem]
    rcases Nat.lt_succ_iff_lt_or_eq.mp hi with hlt | rfl
    · rw [or_iff_right (Nat.ne_of_lt hlt)]
      exact h.closed i hlt
    · rw [h.fresh registry.count le_rfl]
      exact ⟨⟨fun hclosed => (by cases hclosed), fun hnot => absurd (Or.inl rfl) hnot⟩, rfl⟩

/-- **A session is closed.**  Its peer connection and its ICE queue are closed with it. -/
theorem Peers.close (h : registry.Peers) {sessionKey : String} {i : ℕ}
    (hlookup : registry.sessions.lookup sessionKey = some i) :
    ({ registry.setSession i (registry.created i).close with
      sessions := registry.sessions.erase sessionKey } : BrowserRtcRegistry).Peers := by
  have hi := h.lt hlookup
  have hmem : ∀ j, j ∈ Table.values (registry.sessions.erase sessionKey) ↔
      j ≠ i ∧ j ∈ registry.sessions.values := by
    intro j
    simp only [Table.mem_values, Table.lookup_erase_eq_some]
    constructor
    · rintro ⟨sessionKey', hne, hj⟩
      refine ⟨?_, sessionKey', hj⟩
      rintro rfl
      exact hne (h.unique hj hlookup)
    · rintro ⟨hne, sessionKey', hj⟩
      refine ⟨sessionKey', ?_, hj⟩
      rintro rfl
      exact hne (Option.some.inj (hj.symm.trans hlookup))
  refine ⟨fun {sessionKey' j} hj => h.lt (Table.lookup_erase_eq_some.mp hj).2,
    fun {sessionKey' sessionKey'' j} hj hj' => h.unique (Table.lookup_erase_eq_some.mp hj).2
      (Table.lookup_erase_eq_some.mp hj').2, fun j hj => ?_, fun j hj => ?_⟩
  · exact (created_setSession_of_ne (Nat.ne_of_lt (hi.trans_le hj)).symm _).trans (h.fresh j hj)
  · show (((registry.setSession i _).created j).peerClosed = true ↔
      j ∉ Table.values (registry.sessions.erase sessionKey)) ∧
        ((registry.setSession i _).created j).localIce.closed =
          ((registry.setSession i _).created j).peerClosed
    rw [hmem]
    by_cases hji : j = i
    · subst hji
      rw [created_setSession_self]
      exact ⟨⟨fun _ hnot => hnot.1 rfl, fun _ => rfl⟩, rfl⟩
    · rw [created_setSession_of_ne hji, and_iff_right hji]
      exact h.closed j hj

/-- Both invariants of the registry. -/
structure Sound (globals : RtcGlobals) (registry : BrowserRtcRegistry) : Prop where
  queues : registry.Queues globals
  peers : registry.Peers

/-- **Every step keeps them.** -/
theorem Sound.step (h : registry.Sound globals) {event : BrowserRtcEvent}
    (hstep : registry.step globals event = some registry') : registry'.Sound globals := by
  obtain ⟨hqueues, hpeers⟩ := h
  cases event with
  | create sessionKey stunUrls made =>
    obtain rfl := Option.some.inj hstep
    rw [createPeerConnection]
    cases hcheck : registry.checkCreate globals sessionKey stunUrls made with
    | error error => exact ⟨hqueues, hpeers⟩
    | ok _ =>
      have hfresh := hpeers.fresh registry.count le_rfl
      have hnew : (registry.setSession registry.count .new).Queues globals :=
        hqueues.setSession (by rw [hfresh]) (by rw [hfresh]) (by rw [hfresh])
      exact ⟨hnew.congr (fun _ => ⟨rfl, rfl, rfl⟩) rfl fun _ hclosing => hclosing,
        hpeers.create (lookup_of_checkCreate hcheck)⟩
  | close sessionKey =>
    obtain rfl := Option.some.inj hstep
    rw [closePeerConnection]
    split
    · exact ⟨hqueues, hpeers⟩
    · split
      · exact ⟨hqueues, hpeers⟩
      · rename_i i hlookup
        have hclosed : (registry.setSession i (registry.created i).close).Queues globals :=
          hqueues.setSession rfl rfl rfl
        exact ⟨hclosed.congr (fun _ => ⟨rfl, rfl, rfl⟩) rfl fun _ hclosing => hclosing,
          hpeers.close hlookup⟩
  | iceCandidate i event =>
    rw [BrowserRtcRegistry.step] at hstep
    split_ifs at hstep with hi
    obtain rfl := Option.some.inj hstep
    exact ⟨hqueues.setSession rfl rfl rfl,
      hpeers.setSession (hpeers.lt_of_mem hi) rfl (closed_push _ _)⟩
  | pollLocalIce i cx =>
    rw [BrowserRtcRegistry.step] at hstep
    split_ifs at hstep with hi
    obtain rfl := Option.some.inj hstep
    exact ⟨hqueues.setSession rfl rfl rfl, hpeers.setSession hi rfl (closed_pollNext _ _)⟩
  | announce i channel =>
    rw [BrowserRtcRegistry.step] at hstep
    split_ifs at hstep with hi
    obtain rfl := Option.some.inj hstep
    refine ⟨hqueues.announce i channel, ?_⟩
    rw [announce]
    split
    · exact hpeers
    · have hput : (registry.setSession i ((registry.created i).put channel)).Peers :=
        hpeers.setSession (hpeers.lt_of_mem hi) rfl rfl
      exact hput.congr rfl rfl rfl
  | take sessionKey =>
    obtain rfl := Option.some.inj hstep
    refine ⟨hqueues.takeDataChannel sessionKey, ?_⟩
    rw [takeDataChannel]
    split
    · exact hpeers.congr rfl rfl rfl
    · split
      · exact hpeers.congr rfl rfl rfl
      · rename_i i hlookup
        have htake : (registry.setSession i
            ((registry.created i).take registry.takes.length)).Peers :=
          hpeers.setSession (hpeers.lt hlookup) rfl rfl
        exact htake.congr rfl rfl rfl
  | release i =>
    rw [BrowserRtcRegistry.step] at hstep
    split_ifs at hstep with hheld
    obtain rfl := Option.some.inj hstep
    rw [hqueues.release_eq hheld]
    exact ⟨hqueues, hpeers⟩
  | progress channel readyState =>
    rw [BrowserRtcRegistry.step] at hstep
    split_ifs at hstep with hlater
    obtain rfl := Option.some.inj hstep
    exact ⟨hqueues.progress hlater, hpeers.congr rfl rfl rfl⟩

theorem sound_run {events : List BrowserRtcEvent}
    (hrun : Runs.run (step globals) new events = some registry) : registry.Sound globals :=
  Runs.run_invariant (fun _ _ _ h hstep => h.step hstep) ⟨queues_new, peers_new⟩ hrun

/-- **Channels and tasks meet in order.**  In every run, whatever sessions are created and closed
and whenever their channels are announced, open and close: of each session the channels that have no
task yet are queued, and the tasks that have no channel yet wait, so that never do both.  The task
that came after `k` others has the channel that was announced after `k` others, or it found that
this one was closing.  No task has a channel in any other way, and none stands in two places. -/
theorem takes_in_order {events : List BrowserRtcEvent}
    (hrun : Runs.run (step globals) new events = some registry) :
    (∀ i, (registry.created i).incoming.Meets (registry.created i).announced
        (registry.created i).takers ∧
      ((registry.created i).incoming.items = [] ∨ (registry.created i).incoming.takers = [])) ∧
    (∀ i k t, (registry.created i).takers[k]? = some t → registry.Outcome i k t) ∧
    (∀ t channel : ℕ, registry.takes[t]? = some (.returned (.ok channel)) →
      ∃ i k : ℕ, (registry.created i).takers[k]? = some t ∧
        (registry.created i).announced[k]? = some channel) ∧
    ∀ i j k l t : ℕ, (registry.created i).takers[k]? = some t →
      (registry.created j).takers[l]? = some t → i = j ∧ k = l := by
  have h := (sound_run hrun).queues
  refine ⟨fun i => ⟨h.meets i, (h.meets i).items_eq_nil_or⟩, fun i k t hk => h.outcome hk,
    fun t channel ht => ?_, fun i j k l t hk hl => h.unique hk hl⟩
  obtain ⟨i, k, hk⟩ := h.returned ht
  refine ⟨i, k, hk, ?_⟩
  have houtcome := h.outcome hk
  rw [Outcome] at houtcome
  split at houtcome
  · rw [houtcome] at ht
    cases ht
  · rename_i other hother
    rcases houtcome with htaken | ⟨-, state, -, hrefused⟩
    · rw [htaken] at ht
      cases ht
      exact hother
    · rw [hrefused] at ht
      cases ht

/-! ## A session that closes -/

/-- The task `t` waits on the queue of a session that the registry does not have any more. -/
structure Abandoned (registry : BrowserRtcRegistry) (i t : ℕ) : Prop where
  waiting : registry.takes[t]? = some (.waiting i)
  lt : i < registry.count
  closed : i ∉ registry.sessions.values

theorem mem_values_close {sessionKey : String} {i : ℕ}
    (h : i ∈ (registry.closePeerConnection sessionKey).2.sessions.values) :
    i ∈ registry.sessions.values := by
  rw [closePeerConnection] at h
  split at h
  · exact h
  · split at h
    · exact h
    · obtain ⟨sessionKey', -, hlookup⟩ := Table.mem_values_erase h
      exact Table.mem_values.mpr ⟨sessionKey', hlookup⟩

theorem Abandoned.step {i t : ℕ} (h : registry.Abandoned i t) (hsound : registry.Sound globals)
    {event : BrowserRtcEvent} (hstep : registry.step globals event = some registry') :
    registry'.Abandoned i t := by
  have hlt := (List.getElem?_eq_some_iff.mp h.waiting).1
  have hkeeps : ∀ {state : TakeState}, (registry.takes ++ [state])[t]? = some (.waiting i) :=
    (List.getElem?_append_left hlt).trans h.waiting
  cases event with
  | create sessionKey stunUrls made =>
    obtain rfl := Option.some.inj hstep
    rw [createPeerConnection]
    split
    · exact h
    · refine ⟨h.waiting, h.lt.trans (Nat.lt_succ_self _), fun hmem => ?_⟩
      obtain ⟨sessionKey', hlookup⟩ := Table.mem_values.mp hmem
      rw [Table.lookup_insert_eq] at hlookup
      split_ifs at hlookup
      · exact Nat.ne_of_lt h.lt (Option.some.inj hlookup).symm
      · exact h.closed (Table.mem_values.mpr ⟨sessionKey', hlookup⟩)
  | close sessionKey =>
    obtain rfl := Option.some.inj hstep
    have hsame : (registry.closePeerConnection sessionKey).2.takes = registry.takes ∧
        (registry.closePeerConnection sessionKey).2.count = registry.count := by
      rw [closePeerConnection]
      split
      · exact ⟨rfl, rfl⟩
      · split <;> exact ⟨rfl, rfl⟩
    exact ⟨hsame.1 ▸ h.waiting, hsame.2 ▸ h.lt, fun hmem => h.closed (mem_values_close hmem)⟩
  | iceCandidate j event =>
    rw [BrowserRtcRegistry.step] at hstep
    split_ifs at hstep
    obtain rfl := Option.some.inj hstep
    exact ⟨h.waiting, h.lt, h.closed⟩
  | pollLocalIce j cx =>
    rw [BrowserRtcRegistry.step] at hstep
    split_ifs at hstep
    obtain rfl := Option.some.inj hstep
    exact ⟨h.waiting, h.lt, h.closed⟩
  | announce j channel =>
    rw [BrowserRtcRegistry.step] at hstep
    split_ifs at hstep with hj
    obtain rfl := Option.some.inj hstep
    rw [announce]
    split
    · exact h
    · refine ⟨?_, h.lt, h.closed⟩
      -- the task that is told came to a session that the registry has
      obtain ⟨-, hput⟩ := (hsound.queues.meets j).put channel
      refine (getElem?_told hlt).trans ((if_neg fun htold => ?_).trans h.waiting)
      obtain ⟨k, hk⟩ := hsound.queues.waiting h.waiting
      obtain ⟨rfl, -⟩ := hsound.queues.unique hk (hput.symm.trans htold)
      exact h.closed hj
  | take sessionKey =>
    obtain rfl := Option.some.inj hstep
    rw [takeDataChannel]
    split
    · exact ⟨hkeeps, h.lt, h.closed⟩
    · split <;> exact ⟨hkeeps, h.lt, h.closed⟩
  | release j =>
    rw [BrowserRtcRegistry.step] at hstep
    split_ifs at hstep with hheld
    obtain rfl := Option.some.inj hstep
    rwa [hsound.queues.release_eq hheld]
  | progress channel readyState =>
    rw [BrowserRtcRegistry.step] at hstep
    split_ifs at hstep
    obtain rfl := Option.some.inj hstep
    exact ⟨h.waiting, h.lt, h.closed⟩

/-- **A task is not told that its session has closed.**  In no run does `take_data_channel` return
`SessionClosed`.  A task that waits for a channel when its session closes waits in every run from
there on, also when its session key is used again, for it holds itself the queue in which its sender
stands; the ICE queue of the session is closed. -/
theorem closed_take_waits {before : List BrowserRtcEvent}
    (hbefore : Runs.run (step globals) new before = some registry) :
    (∀ t : ℕ, registry.takes[t]? ≠ some (.returned (.error .sessionClosed))) ∧
    ∀ i t : ℕ, registry.takes[t]? = some (.waiting i) → i ∉ registry.sessions.values →
      ∀ after registry', Runs.run (step globals) registry after = some registry' →
        registry'.takes[t]? = some (.waiting i) ∧
          (registry'.created i).peerClosed = true ∧
          (registry'.created i).localIce.closed = true := by
  have h := sound_run hbefore
  refine ⟨h.queues.untold, fun i t ht hi after registry' hafter => ?_⟩
  have hlt : i < registry.count := by
    by_contra hle
    obtain ⟨k, hk⟩ := h.queues.waiting ht
    rw [h.peers.fresh i (Nat.le_of_not_lt hle)] at hk
    cases hk
  obtain ⟨habandoned, hsound⟩ : registry'.Abandoned i t ∧ registry'.Sound globals :=
    Runs.run_invariant (I := fun registry => registry.Abandoned i t ∧ registry.Sound globals)
      (fun _ _ _ hI hstep => ⟨hI.1.step hI.2 hstep, hI.2.step hstep⟩) ⟨⟨ht, hlt, hi⟩, h⟩ hafter
  obtain ⟨hpeer, hice⟩ := hsound.peers.closed i habandoned.lt
  have hclosed := hpeer.mpr habandoned.closed
  exact ⟨habandoned.waiting, hclosed, hice.trans hclosed⟩

section Sample

def sampleGlobals : RtcGlobals := ⟨true, true⟩

/-- A task waits when its session closes. -/
def sampleClosed : BrowserRtcRegistry :=
  (((new.createPeerConnection sampleGlobals "a" none (.ok ())).2.takeDataChannel sampleGlobals
    "a").closePeerConnection "a").2

/-- The key is used again, and a channel is announced. -/
def sampleAgain : BrowserRtcRegistry :=
  (sampleClosed.createPeerConnection sampleGlobals "a" none (.ok ())).2.announce sampleGlobals 1 7

theorem run_sampleClosed :
    Runs.run (step sampleGlobals) new [.create "a" none (.ok ()), .take "a", .close "a"] =
      some sampleClosed := rfl

theorem run_sampleAgain :
    Runs.run (step sampleGlobals) sampleClosed [.create "a" none (.ok ()), .announce 1 7] =
      some sampleAgain := rfl

theorem takes_in_order_sample : sampleClosed.Outcome 0 0 0 :=
  (takes_in_order run_sampleClosed).2.1 0 0 0 (by decide)

theorem closed_take_waits_sample : sampleAgain.takes[0]? = some (.waiting 0) :=
  ((closed_take_waits run_sampleClosed).2 0 0 rfl (by decide) _ _ run_sampleAgain).1

end Sample

end BrowserRtcRegistry

end IrohWebRtc
