import IrohWebRtc.Facade.BootstrapBinding
import Mathlib.Data.List.Perm.Basic

/-!
# Which sessions `close` reaches

A call creates its `NativeWebRtcSession` at one await and hands it to the node with
`track_session` afterwards.  `NativeWebRtcIrohNode::close` takes the list of tracked sessions
under the lock and closes them one after another when the routers and endpoints are down.  A node
is followed here with its sessions, numbered in the order of their creation: those that a call
holds and has not tracked, those the node tracks, those that `close` has taken, and those on which
`close` has been called.

`track_session` refuses a session on a closed node, and the `?` after it drops the session.
Dropping is not closing: the peer connection of the session lives on in the WebRTC library.  The
same becomes of the session of an offerer whose data channel cannot be created.

That a session got away is for good, since nothing has a handle on it any more.  So it suffices to
watch the steps: a run reaches every session exactly when none of its steps lets one go.

* `node_step`: what happens to the sessions does not change what the node does.
* `Accounted`: every session is held, tracked, taken or closed, and none is held when the node is
  closed.  `accounted_step_iff`: the steps that keep this; `not_accounted_step`: it does not come
  back.
* `close_reaches_iff`: when `close` and all calls are over, every session has been closed exactly
  when no call held a session when the node closed, none created one later, and no offerer failed
  between its peer connection and its data channel.
* `session_escapes_close`: an inbound handler whose session is created before `close` and tracked
  after it.
-/

namespace IrohWebRtc

open Bytes Utf8

/-- How far a call has come with the session it creates. -/
inductive CallProgress where
  /-- It awaits the constructor of the session, which has not made its peer connection. -/
  | creating
  /-- It holds a session, which is not tracked. -/
  | created (session : ℕ)
  /-- The session is tracked, its route is not. -/
  | tracked
  deriving DecidableEq, Repr

/-- The stage of the call as the node has it. -/
def CallProgress.stage : CallProgress → SetupStage
  | .creating | .created _ => .creating
  | .tracked => .tracked

/-- A dial, which is the offerer of its session, or an inbound bootstrap handler. -/
structure SessionCall where
  offerer : Bool
  progress : CallProgress
  deriving DecidableEq, Repr

namespace SessionCall

/-- The session that the call holds and has not tracked. -/
def held (call : SessionCall) : Option ℕ :=
  match call.progress with
  | .created session => some session
  | _ => none

end SessionCall

/-- A native node with its sessions. -/
structure OwningNode (E : Type*) where
  node : NativeNode E
  /-- The calls of `node.inFlight`, in order. -/
  calls : List SessionCall
  /-- The number of sessions that were created. -/
  created : ℕ
  /-- `NativeNodeState::sessions`. -/
  sessions : List ℕ
  /-- What `close` has taken and not yet closed. -/
  closing : List ℕ
  /-- The sessions on which `close` has been called. -/
  closedSessions : List ℕ

/-- What happens on a native node. -/
inductive SessionEvent (E : Type*) where
  | dial (remote : E) (alpn : List UInt8) (transportIntent : BootstrapTransportIntent)
  | bootstrap (peer : E) (request : WebRtcSignal E)
  /-- `new_with_config` has made the session of the call at `index`. -/
  | sessionCreated (index : ℕ)
  /-- It has failed, or the call is dropped while it waits for it. -/
  | sessionFailed (index : ℕ)
  /-- `create_data_channel` of an offerer has failed, or the dial is dropped while it waits. -/
  | dataChannelFailed (index : ℕ)
  | trackSession (index : ℕ)
  | trackRoute (index : ℕ)
  /-- `close`, under the lock. -/
  | close
  /-- The loop of `close` comes to its next session. -/
  | closeSession

namespace OwningNode

variable {E : Type*}

/-- A node that has just been spawned. -/
def spawn (endpointId : E) (epoch : FixedBytes 16)
    (acceptQueues protocolAlpns : List (List UInt8)) : OwningNode E :=
  ⟨.spawn endpointId epoch acceptQueues protocolAlpns, [], 0, [], [], []⟩

/-- The calls that were begun between two states of the node. -/
def begun (offerer : Bool) (before after : NativeNode E) : List SessionCall :=
  (after.inFlight.drop before.inFlight.length).map fun _ => ⟨offerer, .creating⟩

section Steps

variable [DecidableEq E] [EndpointKey E] [Blake3]

def step (t : OwningNode E) : SessionEvent E → Option (OwningNode E)
  | .dial remote alpn transportIntent =>
    (t.node.startDial remote alpn transportIntent).map fun node =>
      { t with node := node, calls := t.calls ++ begun true t.node node }
  | .bootstrap _ request =>
    let node := t.node.handleBootstrap request
    some { t with node := node, calls := t.calls ++ begun false t.node node }
  | .sessionCreated index =>
    match t.calls[index]? with
    | some ⟨offerer, .creating⟩ =>
      some
        { t with
          calls := t.calls.set index ⟨offerer, .created t.created⟩
          created := t.created + 1 }
    | _ => none
  | .sessionFailed index =>
    match t.calls[index]? with
    | some ⟨_, .creating⟩ =>
      some { t with node := t.node.failSession index, calls := t.calls.eraseIdx index }
    | _ => none
  | .dataChannelFailed index =>
    match t.calls[index]? with
    | some ⟨true, .created _⟩ =>
      some { t with node := t.node.failSession index, calls := t.calls.eraseIdx index }
    | _ => none
  | .trackSession index =>
    match t.calls[index]? with
    | some ⟨offerer, .created session⟩ =>
      let node := t.node.trackSession index
      if t.node.closed then some { t with node := node, calls := t.calls.eraseIdx index }
      else
        some
          { t with
            node := node
            calls := t.calls.set index ⟨offerer, .tracked⟩
            sessions := t.sessions ++ [session] }
    | _ => none
  | .trackRoute index =>
    match t.calls[index]? with
    | some ⟨_, .tracked⟩ =>
      some { t with node := t.node.trackSessionRoute index, calls := t.calls.eraseIdx index }
    | _ => none
  | .close =>
    if t.node.closed then some t
    else some { t with node := t.node.close, sessions := [], closing := t.sessions }
  | .closeSession =>
    match t.closing with
    | [] => none
    | session :: closing =>
      some { t with closing := closing, closedSessions := t.closedSessions ++ [session] }

end Steps

/-! ## Who has a session -/

/-- The sessions that calls hold and have not tracked. -/
def held (t : OwningNode E) : List ℕ := t.calls.filterMap SessionCall.held

/-- The sessions that are held, tracked, taken by `close`, or closed. -/
def owned (t : OwningNode E) : List ℕ :=
  t.held ++ t.sessions ++ t.closing ++ t.closedSessions

theorem mem_owned {t : OwningNode E} {session : ℕ} :
    session ∈ t.owned ↔
      session ∈ t.held ∨ session ∈ t.sessions ∨ session ∈ t.closing ∨
        session ∈ t.closedSessions := by
  simp only [owned, List.mem_append, or_assoc]

/-- Every session is held, tracked, taken by `close`, or closed, and no session is held when the
node is closed. -/
structure Accounted (t : OwningNode E) : Prop where
  owned : ∀ session < t.created, session ∈ t.owned
  held : t.node.closed = true → t.held = []

/-- `close` and all calls are over. -/
structure Completed (t : OwningNode E) : Prop where
  closed : t.node.closed = true
  calls : t.node.inFlight = []
  closing : t.closing = []

/-- **When no session gets lost.**  The node closes when no call holds a session that is not
tracked, no session is created after that, and no offerer fails between its peer connection and its
data channel. -/
def Kept (t : OwningNode E) : SessionEvent E → Prop
  | .sessionCreated _ => t.node.closed = false
  | .dataChannelFailed _ => False
  | .close => t.node.closed = false → t.held = []
  | _ => True

/-- What holds in every state of a run. -/
structure Consistent (t : OwningNode E) : Prop where
  /-- The calls are those of the node. -/
  stages : t.calls.map (CallProgress.stage ∘ SessionCall.progress) =
    t.node.inFlight.map SessionSetup.stage
  /-- Every session is in one place. -/
  nodup : t.owned.Nodup
  created : ∀ session ∈ t.owned, session < t.created
  /-- A closed node tracks nothing. -/
  closed : t.node.closed = true → t.sessions = [] ∧ t.node.sessionRoutes = []
  opened : t.node.closed = false → t.closing = []

/-! ## The steps of the node -/

/-- Neither the closed flag nor, on a closed node, the routes change. -/
def Quiet (node node' : NativeNode E) : Prop :=
  node'.closed = node.closed ∧ (node.closed = true → node'.sessionRoutes = node.sessionRoutes)

/-- No call begins, or one that creates its session. -/
def Begins (node node' : NativeNode E) : Prop :=
  node'.inFlight = node.inFlight ∨ ∃ route, node'.inFlight = node.inFlight ++ [⟨route, .creating⟩]

section Node

variable [DecidableEq E]

theorem startDial_begins [EndpointKey E] [Blake3] {node node' : NativeNode E} {remote : E}
    {alpn : List UInt8} {transportIntent : BootstrapTransportIntent}
    (h : node.startDial remote alpn transportIntent = some node') :
    Quiet node node' ∧ Begins node node' := by
  unfold NativeNode.startDial at h
  split at h
  · obtain rfl := Option.some.inj h
    exact ⟨⟨rfl, fun _ => rfl⟩, Or.inl rfl⟩
  · split at h
    · obtain rfl := Option.some.inj h
      exact ⟨⟨rfl, fun _ => rfl⟩, Or.inl rfl⟩
    · split_ifs at h with hclosed
      · obtain rfl := Option.some.inj h
        exact ⟨⟨rfl, fun _ => rfl⟩, Or.inl rfl⟩
      · obtain ⟨⟨coordinator, dialIds⟩, -, rfl⟩ := Option.map_eq_some_iff.mp h
        exact ⟨⟨rfl, fun _ => rfl⟩, Or.inr ⟨_, rfl⟩⟩

theorem handleBootstrap_begins (node : NativeNode E) (request : WebRtcSignal E) :
    Quiet node (node.handleBootstrap request) ∧ Begins node (node.handleBootstrap request) := by
  rcases node.handleBootstrap_cases request with ⟨heq, -⟩ | ⟨_, _, _, _, _, -, -, -, heq⟩
  · rw [heq]
    exact ⟨⟨rfl, fun _ => rfl⟩, Or.inl rfl⟩
  · rw [heq]
    exact ⟨⟨rfl, fun _ => rfl⟩, Or.inr ⟨_, rfl⟩⟩

omit [DecidableEq E] in
theorem quiet_failSession (node : NativeNode E) (index : ℕ) :
    Quiet node (node.failSession index) := by
  unfold NativeNode.failSession
  split <;> exact ⟨rfl, fun _ => rfl⟩

omit [DecidableEq E] in
theorem quiet_trackSession (node : NativeNode E) (index : ℕ) :
    Quiet node (node.trackSession index) := by
  unfold NativeNode.trackSession
  split
  · split_ifs <;> exact ⟨rfl, fun _ => rfl⟩
  · exact ⟨rfl, fun _ => rfl⟩

omit [DecidableEq E] in
theorem quiet_trackSessionRoute (node : NativeNode E) (index : ℕ) :
    Quiet node (node.trackSessionRoute index) := by
  unfold NativeNode.trackSessionRoute
  split
  · split_ifs with hclosed
    · exact ⟨rfl, fun _ => rfl⟩
    · exact ⟨rfl, fun h => absurd h hclosed⟩
  · exact ⟨rfl, fun _ => rfl⟩

end Node

/-! ## The calls of the node -/

variable {t t' : OwningNode E}

theorem begun_map_stage {offerer : Bool} {node node' : NativeNode E} (h : Begins node node') :
    (begun offerer node node').map (CallProgress.stage ∘ SessionCall.progress) =
      (node'.inFlight.drop node.inFlight.length).map SessionSetup.stage := by
  rcases h with h | ⟨route, h⟩
  · simp [begun, h]
  · simp [begun, h, CallProgress.stage]

theorem begun_held {offerer : Bool} {node node' : NativeNode E} :
    (begun offerer node node').filterMap SessionCall.held = [] := by
  rw [begun, List.filterMap_map]
  exact List.filterMap_eq_nil_iff.mpr fun _ _ => rfl

theorem Begins.take {node node' : NativeNode E} (h : Begins node node') :
    node'.inFlight = node.inFlight ++ node'.inFlight.drop node.inFlight.length := by
  rcases h with h | ⟨route, h⟩
  · rw [h, List.drop_length, List.append_nil]
  · rw [h, List.drop_left]

/-- The call at `index`, as the node has it. -/
theorem Consistent.call (h : t.Consistent) {index : ℕ} {offerer : Bool} {progress : CallProgress}
    (hcall : t.calls[index]? = some ⟨offerer, progress⟩) :
    ∃ route, t.node.inFlight[index]? = some ⟨route, progress.stage⟩ := by
  have hstage := congrArg (fun stages => stages[index]?) h.stages
  simp only [List.getElem?_map, hcall, Option.map_some, Function.comp_apply] at hstage
  obtain ⟨⟨route, stage⟩, hsetup, hstage⟩ := Option.map_eq_some_iff.mp hstage.symm
  exact ⟨route, by rw [hsetup, ← hstage]⟩

/-- Ending a call on both sides. -/
theorem Consistent.stages_eraseIdx (h : t.Consistent) (index : ℕ) :
    (t.calls.eraseIdx index).map (CallProgress.stage ∘ SessionCall.progress) =
      (t.node.inFlight.eraseIdx index).map SessionSetup.stage := by
  rw [← List.eraseIdx_map, ← List.eraseIdx_map, h.stages]

/-- Carrying a call on on both sides. -/
theorem Consistent.stages_set (h : t.Consistent) {index : ℕ} {call : SessionCall}
    (route : NativeSessionRoute E) :
    (t.calls.set index call).map (CallProgress.stage ∘ SessionCall.progress) =
      (t.node.inFlight.set index ⟨route, call.progress.stage⟩).map SessionSetup.stage := by
  rw [List.map_set, List.map_set, h.stages]
  rfl

/-! ## What a step does to the sessions -/

theorem held_perm {calls : List SessionCall} {index : ℕ} {call : SessionCall}
    (hcall : calls[index]? = some call) :
    (calls.filterMap SessionCall.held).Perm
      (call.held.toList ++ (calls.eraseIdx index).filterMap SessionCall.held) := by
  obtain ⟨hlt, rfl⟩ := List.getElem?_eq_some_iff.mp hcall
  refine ((List.getElem_cons_eraseIdx_perm hlt).symm.filterMap SessionCall.held).trans ?_
  rw [List.filterMap_cons]
  cases calls[index].held <;> exact List.Perm.refl _

theorem held_set_perm {calls : List SessionCall} {index : ℕ} {call : SessionCall}
    (hcall : calls[index]? = some call) (call' : SessionCall) :
    ((calls.set index call').filterMap SessionCall.held).Perm
      (call'.held.toList ++ (calls.eraseIdx index).filterMap SessionCall.held) := by
  obtain ⟨hlt, -⟩ := List.getElem?_eq_some_iff.mp hcall
  refine ((List.set_perm_cons_eraseIdx hlt call').filterMap SessionCall.held).trans ?_
  rw [List.filterMap_cons]
  cases call'.held <;> exact List.Perm.refl _

/-- What a step does to the sessions, with the condition `kept` under which it loses none. -/
inductive Move (t : OwningNode E) (kept : Prop) : OwningNode E → Prop
  | stays (node : NativeNode E) (calls : List SessionCall) (quiet : Quiet t.node node)
      (held : (calls.filterMap SessionCall.held).Perm t.held) (always : kept) :
      Move t kept { t with node := node, calls := calls }
  | creates (calls : List SessionCall)
      (held : (calls.filterMap SessionCall.held).Perm (t.created :: t.held))
      (open_ : kept ↔ t.node.closed = false) :
      Move t kept { t with calls := calls, created := t.created + 1 }
  | loses (node : NativeNode E) (calls : List SessionCall) (session : ℕ)
      (quiet : Quiet t.node node)
      (held : t.held.Perm (session :: calls.filterMap SessionCall.held))
      (late : t.node.closed = true ∨ ¬ kept) :
      Move t kept { t with node := node, calls := calls }
  | tracks (node : NativeNode E) (calls : List SessionCall) (session : ℕ)
      (quiet : Quiet t.node node) (open_ : t.node.closed = false)
      (held : t.held.Perm (session :: calls.filterMap SessionCall.held)) (always : kept) :
      Move t kept { t with node := node, calls := calls, sessions := t.sessions ++ [session] }
  | closes (open_ : t.node.closed = false) (none_held : kept ↔ t.held = []) :
      Move t kept { t with node := t.node.close, sessions := [], closing := t.sessions }
  | closesSession (session : ℕ) (closing : List ℕ) (next : t.closing = session :: closing)
      (always : kept) :
      Move t kept
        { t with closing := closing, closedSessions := t.closedSessions ++ [session] }

section Steps

variable [DecidableEq E] [EndpointKey E] [Blake3] {event : SessionEvent E}

theorem step_moves (hstep : t.step event = some t') : t.Move (t.Kept event) t' := by
  cases event with
  | dial remote alpn transportIntent =>
    obtain ⟨node, hnode, rfl⟩ := Option.map_eq_some_iff.mp hstep
    refine .stays node _ (startDial_begins hnode).1 ?_ trivial
    rw [List.filterMap_append, begun_held, List.append_nil]
    exact List.Perm.refl _
  | bootstrap peer request =>
    obtain rfl := Option.some.inj hstep
    refine .stays _ _ (handleBootstrap_begins t.node request).1 ?_ trivial
    rw [List.filterMap_append, begun_held, List.append_nil]
    exact List.Perm.refl _
  | sessionCreated index =>
    simp only [step] at hstep
    split at hstep
    · rename_i offerer hcall
      obtain rfl := Option.some.inj hstep
      refine .creates _ ?_ Iff.rfl
      exact (held_set_perm hcall _).trans ((held_perm hcall).symm.cons t.created)
    · exact absurd hstep (by simp)
  | sessionFailed index =>
    simp only [step] at hstep
    split at hstep
    · rename_i offerer hcall
      obtain rfl := Option.some.inj hstep
      exact .stays _ _ (quiet_failSession t.node index) (held_perm hcall).symm trivial
    · exact absurd hstep (by simp)
  | dataChannelFailed index =>
    simp only [step] at hstep
    split at hstep
    · rename_i session hcall
      obtain rfl := Option.some.inj hstep
      exact .loses _ _ session (quiet_failSession t.node index) (held_perm hcall) (Or.inr id)
    · exact absurd hstep (by simp)
  | trackSession index =>
    simp only [step] at hstep
    split at hstep
    · rename_i offerer session hcall
      split_ifs at hstep with hclosed
      · obtain rfl := Option.some.inj hstep
        exact .loses _ _ session (quiet_trackSession t.node index) (held_perm hcall)
          (Or.inl hclosed)
      · obtain rfl := Option.some.inj hstep
        refine .tracks _ _ session (quiet_trackSession t.node index)
          (Bool.eq_false_iff.mpr hclosed) ?_ trivial
        exact (held_perm hcall).trans
          ((held_set_perm hcall ⟨offerer, .tracked⟩).symm.cons session)
    · exact absurd hstep (by simp)
  | trackRoute index =>
    simp only [step] at hstep
    split at hstep
    · rename_i offerer hcall
      obtain rfl := Option.some.inj hstep
      exact .stays _ _ (quiet_trackSessionRoute t.node index) (held_perm hcall).symm trivial
    · exact absurd hstep (by simp)
  | close =>
    simp only [step] at hstep
    split_ifs at hstep with hclosed
    · obtain rfl := Option.some.inj hstep
      refine .stays t.node t.calls ⟨rfl, fun _ => rfl⟩ (List.Perm.refl _) fun hopen => ?_
      exact absurd hclosed (by simp [hopen])
    · obtain rfl := Option.some.inj hstep
      have hopen := Bool.eq_false_iff.mpr hclosed
      exact .closes hopen (forall_prop_of_true hopen)
  | closeSession =>
    simp only [step] at hstep
    split at hstep
    · exact absurd hstep (by simp)
    · rename_i session closing hclosing
      obtain rfl := Option.some.inj hstep
      exact .closesSession session closing hclosing trivial

/-- What happens to the sessions does not change what the node does: every step is one of the node,
or leaves it as it is. -/
theorem node_step (hstep : t.step event = some t') :
    t'.node = t.node ∨ ∃ nodeEvent, t.node.step nodeEvent = some t'.node := by
  cases event with
  | dial remote alpn transportIntent =>
    obtain ⟨node, hnode, rfl⟩ := Option.map_eq_some_iff.mp hstep
    exact Or.inr ⟨.dial remote alpn transportIntent, hnode⟩
  | bootstrap peer request =>
    obtain rfl := Option.some.inj hstep
    exact Or.inr ⟨.bootstrap peer request, rfl⟩
  | sessionCreated index =>
    simp only [step] at hstep
    split at hstep
    · obtain rfl := Option.some.inj hstep
      exact Or.inl rfl
    · exact absurd hstep (by simp)
  | sessionFailed index =>
    simp only [step] at hstep
    split at hstep
    · obtain rfl := Option.some.inj hstep
      exact Or.inr ⟨.sessionFailed index, rfl⟩
    · exact absurd hstep (by simp)
  | dataChannelFailed index =>
    simp only [step] at hstep
    split at hstep
    · obtain rfl := Option.some.inj hstep
      exact Or.inr ⟨.sessionFailed index, rfl⟩
    · exact absurd hstep (by simp)
  | trackSession index =>
    simp only [step] at hstep
    split at hstep
    · split_ifs at hstep
      · obtain rfl := Option.some.inj hstep
        exact Or.inr ⟨.sessionCreated index, rfl⟩
      · obtain rfl := Option.some.inj hstep
        exact Or.inr ⟨.sessionCreated index, rfl⟩
    · exact absurd hstep (by simp)
  | trackRoute index =>
    simp only [step] at hstep
    split at hstep
    · obtain rfl := Option.some.inj hstep
      exact Or.inr ⟨.trackRoute index, rfl⟩
    · exact absurd hstep (by simp)
  | close =>
    simp only [step] at hstep
    split_ifs at hstep
    · obtain rfl := Option.some.inj hstep
      exact Or.inl rfl
    · obtain rfl := Option.some.inj hstep
      exact Or.inr ⟨.close, rfl⟩
  | closeSession =>
    simp only [step] at hstep
    split at hstep
    · exact absurd hstep (by simp)
    · obtain rfl := Option.some.inj hstep
      exact Or.inl rfl

/-! ## Consistency -/

omit [DecidableEq E] [EndpointKey E] [Blake3] in
theorem consistent_spawn (endpointId : E) (epoch : FixedBytes 16)
    (acceptQueues protocolAlpns : List (List UInt8)) :
    (spawn endpointId epoch acceptQueues protocolAlpns).Consistent where
  stages := rfl
  nodup := List.nodup_nil
  created := fun _ h => absurd h List.not_mem_nil
  closed := fun _ => ⟨rfl, rfl⟩
  opened := fun _ => rfl

/-- The calls stay those of the node. -/
theorem Consistent.stages_step (h : t.Consistent) (hstep : t.step event = some t') :
    t'.calls.map (CallProgress.stage ∘ SessionCall.progress) =
      t'.node.inFlight.map SessionSetup.stage := by
  cases event with
  | dial remote alpn transportIntent =>
    obtain ⟨node, hnode, rfl⟩ := Option.map_eq_some_iff.mp hstep
    have hbegins := (startDial_begins hnode).2
    show (t.calls ++ begun true t.node node).map _ = node.inFlight.map _
    rw [hbegins.take, List.map_append, List.map_append, h.stages, begun_map_stage hbegins]
  | bootstrap peer request =>
    obtain rfl := Option.some.inj hstep
    have hbegins := (handleBootstrap_begins t.node request).2
    show (t.calls ++ begun false t.node _).map _ = List.map _ _
    rw [hbegins.take, List.map_append, List.map_append, h.stages, begun_map_stage hbegins]
  | sessionCreated index =>
    simp only [step] at hstep
    split at hstep
    · rename_i offerer hcall
      obtain rfl := Option.some.inj hstep
      obtain ⟨route, hsetup⟩ := h.call hcall
      obtain ⟨hlt, hsetup⟩ := List.getElem?_eq_some_iff.mp hsetup
      refine (h.stages_set route).trans ?_
      show (t.node.inFlight.set index ⟨route, .creating⟩).map _ = _
      rw [show (⟨route, .creating⟩ : SessionSetup E) = t.node.inFlight[index] from hsetup.symm,
        List.set_getElem_self]
    · exact absurd hstep (by simp)
  | sessionFailed index =>
    simp only [step] at hstep
    split at hstep
    · rename_i offerer hcall
      obtain rfl := Option.some.inj hstep
      obtain ⟨route, hsetup⟩ := h.call hcall
      simp only [NativeNode.failSession, hsetup, CallProgress.stage]
      exact h.stages_eraseIdx index
    · exact absurd hstep (by simp)
  | dataChannelFailed index =>
    simp only [step] at hstep
    split at hstep
    · rename_i session hcall
      obtain rfl := Option.some.inj hstep
      obtain ⟨route, hsetup⟩ := h.call hcall
      simp only [NativeNode.failSession, hsetup, CallProgress.stage]
      exact h.stages_eraseIdx index
    · exact absurd hstep (by simp)
  | trackSession index =>
    simp only [step] at hstep
    split at hstep
    · rename_i offerer session hcall
      obtain ⟨route, hsetup⟩ := h.call hcall
      split_ifs at hstep with hclosed
      · obtain rfl := Option.some.inj hstep
        simp only [NativeNode.trackSession, hsetup, CallProgress.stage, if_pos hclosed]
        exact h.stages_eraseIdx index
      · obtain rfl := Option.some.inj hstep
        simp only [NativeNode.trackSession, hsetup, CallProgress.stage, if_neg hclosed]
        exact h.stages_set route
    · exact absurd hstep (by simp)
  | trackRoute index =>
    simp only [step] at hstep
    split at hstep
    · rename_i offerer hcall
      obtain rfl := Option.some.inj hstep
      obtain ⟨route, hsetup⟩ := h.call hcall
      simp only [NativeNode.trackSessionRoute, hsetup, CallProgress.stage]
      split_ifs <;> exact h.stages_eraseIdx index
    · exact absurd hstep (by simp)
  | close =>
    simp only [step] at hstep
    split_ifs at hstep with hclosed
    · obtain rfl := Option.some.inj hstep
      exact h.stages
    · obtain rfl := Option.some.inj hstep
      simp only [NativeNode.close, if_neg hclosed]
      exact h.stages
  | closeSession =>
    simp only [step] at hstep
    split at hstep
    · exact absurd hstep (by simp)
    · obtain rfl := Option.some.inj hstep
      exact h.stages

end Steps

/-- The sessions of a step, as one list: they are the same, or one was created, or one got lost. -/
theorem Move.owned_perm {kept : Prop} (hmove : t.Move kept t') (h : t.Consistent) :
    (t'.created = t.created ∧ t'.owned.Perm t.owned) ∨
      (t'.created = t.created + 1 ∧ t'.owned.Perm (t.created :: t.owned)) ∨
        (t'.created = t.created ∧ ∃ session, t.owned.Perm (session :: t'.owned)) := by
  cases hmove with
  | stays node calls quiet held always =>
    refine Or.inl ⟨rfl, ?_⟩
    exact ((held.append_right t.sessions).append_right t.closing).append_right t.closedSessions
  | creates calls held open_ =>
    refine Or.inr (Or.inl ⟨rfl, ?_⟩)
    exact ((held.append_right t.sessions).append_right t.closing).append_right t.closedSessions
  | loses node calls session quiet held late =>
    refine Or.inr (Or.inr ⟨rfl, session, ?_⟩)
    exact ((held.append_right t.sessions).append_right t.closing).append_right t.closedSessions
  | tracks node calls session quiet open_ held always =>
    refine Or.inl ⟨rfl, ((?_ : List.Perm _ _).append_right t.closing).append_right
      t.closedSessions⟩
    show (calls.filterMap SessionCall.held ++ (t.sessions ++ [session])).Perm _
    refine List.Perm.trans ?_ (held.symm.append_right t.sessions)
    rw [← List.append_assoc]
    exact List.perm_append_singleton session _
  | closes open_ none_held =>
    refine Or.inl ⟨rfl, ?_⟩
    show (t.held ++ [] ++ t.sessions ++ t.closedSessions).Perm
      (t.held ++ t.sessions ++ t.closing ++ t.closedSessions)
    rw [h.opened open_, List.append_nil, List.append_nil]
  | closesSession session closing next always =>
    refine Or.inl ⟨rfl, ?_⟩
    show (t.held ++ t.sessions ++ closing ++ (t.closedSessions ++ [session])).Perm
      (t.held ++ t.sessions ++ t.closing ++ t.closedSessions)
    rw [next, List.append_assoc, List.append_assoc (t.held ++ t.sessions)]
    refine List.Perm.append_left _ ?_
    rw [← List.append_assoc, List.cons_append]
    exact List.perm_append_singleton session _

/-- A closed node stays closed, and its lists stay empty. -/
theorem Move.closed {kept : Prop} (hmove : t.Move kept t') (h : t.Consistent) :
    (t.node.closed = true → t'.node.closed = true) ∧
      (t'.node.closed = true → t'.sessions = [] ∧ t'.node.sessionRoutes = []) ∧
        (t'.node.closed = false → t'.closing = []) := by
  cases hmove with
  | stays node calls quiet held always =>
    refine ⟨quiet.1.trans, fun hclosed => ?_, fun hopen => h.opened (quiet.1.symm.trans hopen)⟩
    have hbefore := quiet.1.symm.trans hclosed
    exact ⟨(h.closed hbefore).1, (quiet.2 hbefore).trans (h.closed hbefore).2⟩
  | creates calls held open_ => exact ⟨id, h.closed, h.opened⟩
  | loses node calls session quiet held late =>
    refine ⟨quiet.1.trans, fun hclosed => ?_, fun hopen => h.opened (quiet.1.symm.trans hopen)⟩
    have hbefore := quiet.1.symm.trans hclosed
    exact ⟨(h.closed hbefore).1, (quiet.2 hbefore).trans (h.closed hbefore).2⟩
  | tracks node calls session quiet open_ held always =>
    refine ⟨quiet.1.trans, fun hclosed => ?_, fun hopen => h.opened open_⟩
    exact absurd (open_.symm.trans (quiet.1.symm.trans hclosed)) (by simp)
  | closes open_ none_held =>
    have hnode : t.node.close =
        { t.node with closed := true, acceptQueues := [], sessionRoutes := [] } :=
      if_neg (by simp [open_])
    refine ⟨fun _ => by rw [hnode], fun _ => ⟨rfl, by rw [hnode]⟩, fun hopen => ?_⟩
    rw [hnode] at hopen
    exact absurd hopen (by simp)
  | closesSession session closing next always =>
    refine ⟨id, h.closed, fun hopen => absurd (h.opened hopen) ?_⟩
    rw [next]
    exact List.cons_ne_nil session closing

section Steps

variable [DecidableEq E] [EndpointKey E] [Blake3] {event : SessionEvent E}

theorem Consistent.step (h : t.Consistent) (hstep : t.step event = some t') : t'.Consistent := by
  have hmove := step_moves hstep
  obtain ⟨-, hclosed, hopened⟩ := hmove.closed h
  have hplaces : t'.owned.Nodup ∧ ∀ session ∈ t'.owned, session < t'.created := by
    rcases hmove.owned_perm h with ⟨hcreated, hperm⟩ | ⟨hcreated, hperm⟩ | ⟨hcreated, session, hperm⟩
    · refine ⟨hperm.nodup_iff.mpr h.nodup, fun session hmem => ?_⟩
      rw [hcreated]
      exact h.created session (hperm.mem_iff.mp hmem)
    · constructor
      · refine hperm.nodup_iff.mpr (List.nodup_cons.mpr ⟨fun hmem => ?_, h.nodup⟩)
        exact Nat.lt_irrefl _ (h.created _ hmem)
      · intro session hmem
        rw [hcreated]
        rcases List.mem_cons.mp (hperm.mem_iff.mp hmem) with rfl | hmem
        · exact Nat.lt_succ_self _
        · exact Nat.lt_succ_of_lt (h.created session hmem)
    · have hnodup := List.nodup_cons.mp (hperm.nodup_iff.mp h.nodup)
      refine ⟨hnodup.2, fun other hmem => ?_⟩
      rw [hcreated]
      exact h.created other (hperm.mem_iff.mpr (List.mem_cons_of_mem _ hmem))
  exact ⟨h.stages_step hstep, hplaces.1, hplaces.2, hclosed, hopened⟩

end Steps

/-! ## Sessions that get lost -/

/-- A session that leaves the lists is not in them. -/
theorem Consistent.not_mem_of_perm (h : t.Consistent) {session : ℕ} {owned : List ℕ}
    (hperm : t.owned.Perm (session :: owned)) : session < t.created ∧ session ∉ owned :=
  ⟨h.created session (hperm.mem_iff.mpr List.mem_cons_self),
    (List.nodup_cons.mp (hperm.nodup_iff.mp h.nodup)).1⟩

/-- The sessions that `loses` takes out of the held ones leave all lists. -/
theorem owned_perm_of_held {calls : List SessionCall} {session : ℕ} (node : NativeNode E)
    (held : t.held.Perm (session :: calls.filterMap SessionCall.held)) :
    t.owned.Perm (session :: OwningNode.owned { t with node := node, calls := calls }) :=
  ((held.append_right t.sessions).append_right t.closing).append_right t.closedSessions

/-- **Which steps keep every session accounted for.** -/
theorem Move.accounted_iff {kept : Prop} (hmove : t.Move kept t') (h : t.Consistent)
    (haccounted : t.Accounted) : t'.Accounted ↔ kept := by
  cases hmove with
  | stays node calls quiet held always =>
    refine iff_of_true ⟨fun session hlt => ?_, fun hclosed => ?_⟩ always
    · have hperm := ((held.append_right t.sessions).append_right t.closing).append_right
        t.closedSessions
      exact hperm.mem_iff.mpr (haccounted.owned session hlt)
    · have hnil := haccounted.held (quiet.1.symm.trans hclosed)
      exact (hnil ▸ held).eq_nil
  | creates calls held open_ =>
    rw [open_]
    constructor
    · intro h'
      by_contra hopen
      have hnil : calls.filterMap SessionCall.held = [] := h'.held (Bool.not_eq_false _ ▸ hopen)
      exact absurd (hnil ▸ held).symm.eq_nil (List.cons_ne_nil _ _)
    · intro hopen
      refine ⟨fun session hlt => ?_, fun hclosed => absurd (hopen.symm.trans hclosed) (by simp)⟩
      have hperm := ((held.append_right t.sessions).append_right t.closing).append_right
        t.closedSessions
      rcases Nat.lt_succ_iff_lt_or_eq.mp hlt with hlt | rfl
      · exact hperm.mem_iff.mpr (List.mem_cons_of_mem _ (haccounted.owned session hlt))
      · exact hperm.mem_iff.mpr List.mem_cons_self
  | loses node calls session quiet held late =>
    obtain ⟨hlt, hnot⟩ := h.not_mem_of_perm (owned_perm_of_held node held)
    refine iff_of_false (fun h' => hnot (h'.owned session hlt)) fun hkept => ?_
    rcases late with hclosed | hnot
    · have hnil := haccounted.held hclosed
      exact absurd (hnil ▸ held).symm.eq_nil (List.cons_ne_nil _ _)
    · exact hnot hkept
  | tracks node calls session quiet open_ held always =>
    refine iff_of_true ⟨fun other hlt => ?_, fun hclosed => ?_⟩ always
    · have hmem := haccounted.owned other hlt
      have hheld := held.mem_iff (a := other)
      simp only [mem_owned, OwningNode.held, List.mem_append, List.mem_cons,
        List.not_mem_nil] at hmem hheld ⊢
      tauto
    · exact absurd (open_.symm.trans (quiet.1.symm.trans hclosed)) (by simp)
  | closes open_ none_held =>
    rw [none_held]
    have hclosed : t.node.close.closed = true := by
      rw [NativeNode.close, if_neg (by simp [open_])]
    constructor
    · intro h'
      exact h'.held hclosed
    · intro hnil
      refine ⟨fun session hlt => ?_, fun _ => hnil⟩
      have hmem := haccounted.owned session hlt
      simp only [mem_owned, h.opened open_, List.not_mem_nil] at hmem ⊢
      tauto
  | closesSession session closing next always =>
    refine iff_of_true ⟨fun other hlt => ?_, haccounted.held⟩ always
    have hmem := haccounted.owned other hlt
    simp only [mem_owned, OwningNode.held, next, List.mem_append, List.mem_cons,
      List.not_mem_nil] at hmem ⊢
    tauto

/-- **A session that got lost stays lost.** -/
theorem Move.not_accounted {kept : Prop} (hmove : t.Move kept t') (h : t.Consistent)
    (hnot : ¬ t.Accounted) : ¬ t'.Accounted := by
  intro h'
  have hstays : t.node.closed = true → t'.node.closed = true := (hmove.closed h).1
  refine hnot ⟨fun session hlt => ?_, fun hclosed => ?_⟩
  · -- what is in the lists after the step was there before, unless it is new
    rcases hmove.owned_perm h with ⟨hcreated, hperm⟩ | ⟨hcreated, hperm⟩ | ⟨hcreated, other, hperm⟩
    · exact hperm.mem_iff.mp (h'.owned session (hcreated ▸ hlt))
    · have hmem := h'.owned session (hcreated ▸ Nat.lt_succ_of_lt hlt)
      rcases List.mem_cons.mp (hperm.mem_iff.mp hmem) with rfl | hmem
      · exact absurd hlt (Nat.lt_irrefl _)
      · exact hmem
    · exact hperm.mem_iff.mpr (List.mem_cons_of_mem _ (h'.owned session (hcreated ▸ hlt)))
  · have hnil := h'.held (hstays hclosed)
    cases hmove with
    | stays node calls quiet held always =>
      exact (held.symm.trans (List.Perm.of_eq hnil)).eq_nil
    | creates calls held open_ =>
      exact absurd (held.symm.trans (List.Perm.of_eq hnil)).eq_nil (List.cons_ne_nil _ _)
    | loses node calls session quiet held late =>
      obtain ⟨hlt, hgone⟩ := h.not_mem_of_perm (owned_perm_of_held node held)
      exact absurd (h'.owned session hlt) hgone
    | tracks node calls session quiet open_ held always =>
      exact absurd (open_.symm.trans hclosed) (by simp)
    | closes open_ none_held => exact hnil
    | closesSession session closing next always => exact hnil

section Steps

variable [DecidableEq E] [EndpointKey E] [Blake3]

/-- **No native session escapes `close`, when the node closes at the right time.**  Take any
interleaving of dials, inbound bootstrap handlers and `close`, and let all of them be over.  The
node tracks no session and no route, and every session that was created has been closed exactly when
the node closed while no call held a session that was not yet tracked, no session was created after
that, and no offerer failed between its peer connection and its data channel. -/
theorem close_reaches_iff {endpointId : E} {epoch : FixedBytes 16}
    {acceptQueues protocolAlpns : List (List UInt8)} {events : List (SessionEvent E)}
    (hrun : Runs.run step (spawn endpointId epoch acceptQueues protocolAlpns) events = some t)
    (hcompleted : t.Completed) :
    (t.sessions = [] ∧ t.node.sessionRoutes = []) ∧
      ((∀ session < t.created, session ∈ t.closedSessions) ↔
        Runs.Guarded step Kept (spawn endpointId epoch acceptQueues protocolAlpns) events) := by
  have hspawn := consistent_spawn endpointId epoch acceptQueues protocolAlpns
  have hconsistent : t.Consistent :=
    Runs.run_invariant (fun s event s' h hstep => h.step hstep) hspawn hrun
  have hempty := hconsistent.closed hcompleted.closed
  refine ⟨hempty, ?_⟩
  have hcalls : t.calls = [] := by
    have hstages := hconsistent.stages
    rw [hcompleted.calls, List.map_nil, List.map_eq_nil_iff] at hstages
    exact hstages
  have hheld : t.held = [] := by rw [held, hcalls, List.filterMap_nil]
  have howned : t.owned = t.closedSessions := by
    rw [owned, hheld, hempty.1, hcompleted.closing]
    rfl
  have haccounted : t.Accounted ↔ ∀ session < t.created, session ∈ t.closedSessions := by
    constructor
    · intro h session hlt
      exact howned ▸ h.owned session hlt
    · intro h
      exact ⟨fun session hlt => howned ▸ h session hlt, fun _ => hheld⟩
  rw [← haccounted]
  refine Runs.iff_guarded_of_lost (fun s event s' h hstep => h.step hstep) ?_ ?_ hspawn ?_ hrun
  · intro s event s' h haccounted hstep
    exact (step_moves hstep).accounted_iff h haccounted
  · intro s event s' h hnot hstep
    exact (step_moves hstep).not_accounted h hnot
  · exact ⟨fun session hlt => absurd hlt (Nat.not_lt_zero _), fun _ => rfl⟩

end Steps

section Sample

open scoped Sample
open Sample

/-- An inbound request of bob, whose session is created while the node is open. -/
def sampleRequest : List (SessionEvent Key) :=
  [.bootstrap bob (.dialRequest NativeNode.sampleSession bob alice 0 "chat" .webRtcPreferred),
    .sessionCreated 0]

/-- A node that serves the ALPN of the request. -/
def sampleSpawn : OwningNode Key := spawn alice epoch [utf8Bytes "chat"] []

theorem close_reaches_iff_sample :
    ∃ t, Runs.run step sampleSpawn
        (sampleRequest ++ [.trackSession 0, .trackRoute 0, .close, .closeSession]) = some t ∧
      (t.sessions = [] ∧ t.node.sessionRoutes = []) ∧
        ((∀ session < t.created, session ∈ t.closedSessions) ↔
          Runs.Guarded step Kept sampleSpawn
            (sampleRequest ++ [.trackSession 0, .trackRoute 0, .close, .closeSession])) :=
  ⟨_, rfl, close_reaches_iff rfl ⟨rfl, rfl, rfl⟩⟩

/-- **A session escapes.**  The session of an inbound handler is created, the node closes, and then
the handler tracks the session: `track_session` fails, and nobody closes the session. -/
theorem session_escapes_close :
    ∃ t, Runs.run step sampleSpawn (sampleRequest ++ [.close, .trackSession 0]) = some t ∧
      t.Completed ∧ t.created = 1 ∧ t.closedSessions = [] ∧
        ¬ ∀ session < t.created, session ∈ t.closedSessions :=
  ⟨_, rfl, ⟨rfl, rfl, rfl⟩, rfl, rfl, fun h => absurd (h 0 Nat.one_pos) List.not_mem_nil⟩

end Sample

end OwningNode

end IrohWebRtc
