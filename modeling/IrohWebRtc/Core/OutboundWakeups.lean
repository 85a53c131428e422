import IrohWebRtc.Core.Outbound
import IrohWebRtc.Lib.Runs

/-!
# Wake-ups of senders

Tasks that push packets into a full channel wait for their wakers.  A waker of a waiting task should
be with the sender of its session's route, where the next packet that leaves the channel wakes it,
and with the route itself, where the end of the route or of the hub does.

A route has one slot and its sender keeps the last waker it was polled with, so a push by one task
takes the place of another task that waits; and a new registration drops the route of the old one
without waking its waker, which `unregister_outbound_session` and `close` do wake.

* `OutboundTasks.Armed`: the waker of a task is where the next event wakes it, with `Armed.woken`.
* `noLostWakeup_iff`: every waiting task stays armed exactly when no push and no registration meets
  another task that waits for its session.
* `reregistration_loses_waker`: both kinds of steps lose a waker.
-/

namespace IrohWebRtc

open Bytes

/-- A hub and the tasks that push into it. -/
structure OutboundTasks (S : Type*) where
  hub : SessionState S
  /-- The session of the task's last push, if that push is waiting and the task was not woken
  since. -/
  waiting : Waker → Option (FixedBytes 16)

/-- What happens to the outbound half of a hub.  A receiver whose route is gone has no sender that
could wait for it, so it has no events here. -/
inductive OutboundEvent where
  /-- The task `cx` polls `poll_push_outbound`. -/
  | poll (cx : Waker) (packet : OutboundPacket)
  /-- The receiver of the session's route takes a packet. -/
  | recv (sessionId : FixedBytes 16)
  /-- The receiver of the session's route is dropped. -/
  | dropReceiver (sessionId : FixedBytes 16)
  | register (sessionId : FixedBytes 16)
  | unregister (sessionId : FixedBytes 16)
  | close
  deriving DecidableEq

namespace OutboundTasks

variable {S : Type*}

/-- A new hub, before any task has polled. -/
def new (recvCapacity outboundCapacity : ℕ) : OutboundTasks S where
  hub := .withCapacities recvCapacity outboundCapacity
  waiting := fun _ => none

/-- Wakes the tasks of some wakers. -/
def wake (woken : List Waker) (waiting : Waker → Option (FixedBytes 16)) :
    Waker → Option (FixedBytes 16) :=
  fun t => if t ∈ woken then none else waiting t

/-- The session a task waits for after it has pushed a packet. -/
def waitsFor (packet : OutboundPacket) (r : Poll (Except Error Unit)) : Option (FixedBytes 16) :=
  match r, WebRtcPacketFrame.sessionIdOf packet.bytes with
  | .pending, .ok sessionId => some sessionId
  | _, _ => none

/-- The waker of `t` is with the sender of the session's route and with the route. -/
def Armed [PollSender S OutboundPacket] (tasks : OutboundTasks S) (t : Waker)
    (sessionId : FixedBytes 16) : Prop :=
  ∃ route, tasks.hub.outbound.lookup sessionId = some route ∧ route.pendingWaker = some t ∧
    PollSender.waker route.sender = some t

/-- Every task that waits has its waker in both places. -/
def NoLostWakeup [PollSender S OutboundPacket] (tasks : OutboundTasks S) : Prop :=
  ∀ t sessionId, tasks.waiting t = some sessionId → tasks.Armed t sessionId

section Channel

variable [PollSender S OutboundPacket]

def step (tasks : OutboundTasks S) : OutboundEvent → OutboundTasks S
  | .poll cx packet =>
    let (r, hub) := tasks.hub.pollPushOutbound cx packet
    ⟨hub, Function.update tasks.waiting cx (waitsFor packet r)⟩
  | .recv sessionId =>
    match tasks.hub.recvOutbound sessionId with
    | none => tasks
    | some (_, hub, woken) => ⟨hub, wake woken.toList tasks.waiting⟩
  | .dropReceiver sessionId =>
    let (hub, woken) := tasks.hub.dropOutboundReceiver sessionId
    ⟨hub, wake woken.toList tasks.waiting⟩
  | .register sessionId => { tasks with hub := tasks.hub.registerOutboundSession sessionId }
  | .unregister sessionId =>
    let (hub, _, woken) := tasks.hub.unregisterOutboundSession sessionId
    ⟨hub, wake woken.toList tasks.waiting⟩
  | .close =>
    let (hub, woken) := tasks.hub.close
    ⟨hub, wake woken tasks.waiting⟩

/-- A step that takes no other task's place: no other task waits for the session of a push, and no
task for a session that is registered. -/
def KeepsWakers (tasks : OutboundTasks S) : OutboundEvent → Prop
  | .poll cx packet => ∀ sessionId, WebRtcPacketFrame.sessionIdOf packet.bytes = .ok sessionId →
      ∀ t, t ≠ cx → tasks.waiting t ≠ some sessionId
  | .register sessionId => ∀ t, tasks.waiting t ≠ some sessionId
  | _ => True

/-- A closed hub has no routes. -/
def ClosedEmpty (tasks : OutboundTasks S) : Prop :=
  tasks.hub.closed = true → tasks.hub.outbound = ∅

variable {tasks : OutboundTasks S}

/-! ## What wakes a task -/

@[simp] theorem wake_nil (waiting : Waker → Option (FixedBytes 16)) : wake [] waiting = waiting :=
  rfl

theorem wake_eq_some {woken : List Waker} {waiting : Waker → Option (FixedBytes 16)} {t : Waker}
    {sessionId : FixedBytes 16} :
    wake woken waiting t = some sessionId ↔ t ∉ woken ∧ waiting t = some sessionId := by
  unfold wake
  split_ifs with h <;> simp [h]

omit [PollSender S OutboundPacket] in
/-- The wakers of the routes are among those a close wakes. -/
theorem mem_woken_of_close {t : Waker} {sessionId : FixedBytes 16} {route : OutboundRoute S}
    (hroute : tasks.hub.outbound.lookup sessionId = some route)
    (ht : route.pendingWaker = some t) : t ∈ tasks.hub.close.2 := by
  refine List.mem_append_right _ (List.mem_filterMap.mpr ⟨route, ?_, ht⟩)
  exact Table.mem_values.mpr ⟨sessionId, hroute⟩

/-- **An armed task is woken** by the next packet that leaves the channel, by the end of the
receiver, by the end of the route and by the end of the hub. -/
theorem Armed.woken [LawfulPollSender S] {t : Waker} {sessionId : FixedBytes 16}
    (h : tasks.Armed t sessionId) :
    (tasks.hub.recvOutbound sessionId ≠ none → (tasks.step (.recv sessionId)).waiting t = none) ∧
      (tasks.step (.dropReceiver sessionId)).waiting t = none ∧
      (tasks.step (.unregister sessionId)).waiting t = none ∧
      (tasks.step .close).waiting t = none := by
  obtain ⟨route, hroute, hpending, hwaker⟩ := h
  refine ⟨fun hrecv => ?_, ?_, ?_, ?_⟩
  · cases hr : PollSender.recv route.sender with
    | none => exact absurd (by simp [SessionState.recvOutbound, hroute, hr]) hrecv
    | some taken =>
      obtain ⟨packet, woken, sender⟩ := taken
      have hwoken : woken = some t := (LawfulPollSender.woken_of_recv hr).trans hwaker
      simp [step, SessionState.recvOutbound, hroute, hr, wake, hwoken]
  · have hwoken : (PollSender.dropReceiver route.sender).1 = some t :=
      (LawfulPollSender.woken_of_dropReceiver _).trans hwaker
    simp [step, SessionState.dropOutboundReceiver, hroute, wake, hwoken]
  · simp [step, SessionState.unregisterOutboundSession, hroute, wake, hpending]
  · show wake tasks.hub.close.2 tasks.waiting t = none
    rw [wake, if_pos (mem_woken_of_close hroute hpending)]

/-! ## What a step does -/

/-- What a step does to the routes and to the tasks that wait. -/
inductive Effect (tasks : OutboundTasks S) : OutboundEvent → OutboundTasks S → Prop where
  | refused (cx packet) :
    Effect tasks (.poll cx packet) ⟨tasks.hub, Function.update tasks.waiting cx none⟩
  | waits {cx packet sessionId route sender}
    (hid : WebRtcPacketFrame.sessionIdOf packet.bytes = .ok sessionId)
    (hroute : tasks.hub.outbound.lookup sessionId = some route)
    (hreserve : PollSender.pollReserve route.sender cx = (.pending, sender)) :
    Effect tasks (.poll cx packet)
      ⟨{ tasks.hub with outbound := tasks.hub.outbound.insert sessionId ⟨sender, some cx⟩ },
        Function.update tasks.waiting cx (some sessionId)⟩
  | pushed {cx packet sessionId route} (sender)
    (hid : WebRtcPacketFrame.sessionIdOf packet.bytes = .ok sessionId)
    (hroute : tasks.hub.outbound.lookup sessionId = some route) :
    Effect tasks (.poll cx packet)
      ⟨{ tasks.hub with outbound := tasks.hub.outbound.insert sessionId ⟨sender, none⟩ },
        Function.update tasks.waiting cx none⟩
  | idle {ev} (hquiet : tasks.KeepsWakers ev) : Effect tasks ev tasks
  | freed {ev sessionId route} (sender) (hquiet : tasks.KeepsWakers ev)
    (hroute : tasks.hub.outbound.lookup sessionId = some route) :
    Effect tasks ev
      ⟨{ tasks.hub with
          outbound := tasks.hub.outbound.insert sessionId { route with sender := sender } },
        wake (PollSender.waker route.sender).toList tasks.waiting⟩
  | refusedRegistration {sessionId} (hclosed : tasks.hub.closed = true) :
    Effect tasks (.register sessionId) tasks
  | registered {sessionId} (hopen : tasks.hub.closed = false) :
    Effect tasks (.register sessionId)
      { tasks with
        hub := { tasks.hub with
          outbound := tasks.hub.outbound.insert sessionId
            ⟨PollSender.channel tasks.hub.outboundCapacity, none⟩ } }
  | unregistered {sessionId route}
    (hroute : tasks.hub.outbound.lookup sessionId = some route) :
    Effect tasks (.unregister sessionId)
      ⟨{ tasks.hub with outbound := tasks.hub.outbound.erase sessionId },
        wake route.pendingWaker.toList tasks.waiting⟩
  | closed : Effect tasks .close ⟨tasks.hub.close.1, wake tasks.hub.close.2 tasks.waiting⟩

theorem step_effect [LawfulPollSender S] (tasks : OutboundTasks S) (ev : OutboundEvent) :
    Effect tasks ev (tasks.step ev) := by
  cases ev with
  | poll cx packet =>
    rcases hpush : tasks.hub.pollPushOutbound cx packet with ⟨r, hub⟩
    have hstep : tasks.step (.poll cx packet) =
        ⟨hub, Function.update tasks.waiting cx (waitsFor packet r)⟩ := by
      simp only [step, hpush]
    rw [hstep]
    rcases SessionState.pollPushOutbound_cases hpush with ⟨err, rfl, rfl⟩ |
      ⟨sessionId, route, hid, -, hroute, ⟨sender, hreserve, rfl, rfl⟩ | ⟨_, sender, -, rfl, rfl⟩⟩
    · exact .refused cx packet
    · have hwaits : waitsFor packet .pending = some sessionId := by simp only [waitsFor, hid]
      rw [hwaits]
      exact .waits hid hroute hreserve
    · exact .pushed sender hid hroute
  | recv sessionId =>
    cases hroute : tasks.hub.outbound.lookup sessionId with
    | none =>
      simp only [step, SessionState.recvOutbound, hroute]
      exact .idle trivial
    | some route =>
      cases hr : PollSender.recv route.sender with
      | none =>
        simp only [step, SessionState.recvOutbound, hroute, hr]
        exact .idle trivial
      | some taken =>
        obtain ⟨packet, woken, sender⟩ := taken
        simp only [step, SessionState.recvOutbound, hroute, hr]
        rw [LawfulPollSender.woken_of_recv hr]
        exact .freed sender trivial hroute
  | dropReceiver sessionId =>
    cases hroute : tasks.hub.outbound.lookup sessionId with
    | none =>
      have hstep : tasks.step (.dropReceiver sessionId) = tasks := by
        simp [step, SessionState.dropOutboundReceiver, hroute]
      rw [hstep]
      exact .idle trivial
    | some route =>
      simp only [step, SessionState.dropOutboundReceiver, hroute]
      rw [LawfulPollSender.woken_of_dropReceiver]
      exact .freed _ trivial hroute
  | register sessionId =>
    unfold step SessionState.registerOutboundSession
    split_ifs with hclosed
    · exact .refusedRegistration hclosed
    · exact .registered (by simpa using hclosed)
  | unregister sessionId =>
    cases hroute : tasks.hub.outbound.lookup sessionId with
    | none =>
      have hstep : tasks.step (.unregister sessionId) = tasks := by
        simp [step, SessionState.unregisterOutboundSession, hroute]
      rw [hstep]
      exact .idle trivial
    | some route =>
      simp only [step, SessionState.unregisterOutboundSession, hroute]
      exact .unregistered hroute
  | close => exact .closed

/-! ## Closed hubs -/

omit [PollSender S OutboundPacket] in
theorem ClosedEmpty.hub_open (h : tasks.ClosedEmpty) {sessionId : FixedBytes 16}
    {route : OutboundRoute S} (hroute : tasks.hub.outbound.lookup sessionId = some route) :
    tasks.hub.closed = false := by
  by_contra hclosed
  rw [h (by simpa using hclosed), AList.lookup_empty] at hroute
  exact absurd hroute (by simp)

theorem Effect.closedEmpty {ev : OutboundEvent} {tasks' : OutboundTasks S}
    (heffect : Effect tasks ev tasks') (h : tasks.ClosedEmpty) : tasks'.ClosedEmpty := by
  have hroutes : ∀ {sessionId : FixedBytes 16} {route : OutboundRoute S},
      tasks.hub.outbound.lookup sessionId = some route → tasks.hub.closed ≠ true := by
    intro sessionId route hroute
    simp [h.hub_open hroute]
  cases heffect with
  | refused cx packet => exact h
  | waits hid hroute hreserve => exact fun hclosed => absurd hclosed (hroutes hroute)
  | pushed sender hid hroute => exact fun hclosed => absurd hclosed (hroutes hroute)
  | idle hquiet => exact h
  | freed sender hquiet hroute => exact fun hclosed => absurd hclosed (hroutes hroute)
  | refusedRegistration hclosed => exact h
  | registered hopen => exact fun hclosed => absurd (hclosed.symm.trans hopen) (by simp)
  | unregistered hroute => exact fun hclosed => absurd hclosed (hroutes hroute)
  | closed => exact fun _ => rfl

/-! ## Tasks that wait -/

/-- A step that leaves the route of a session alone leaves its waiting tasks armed. -/
theorem Armed.of_lookup_eq {tasks' : OutboundTasks S} {t : Waker} {sessionId : FixedBytes 16}
    (h : tasks.Armed t sessionId)
    (hlookup : tasks'.hub.outbound.lookup sessionId = tasks.hub.outbound.lookup sessionId) :
    tasks'.Armed t sessionId := by
  obtain ⟨route, hroute, hpending, hwaker⟩ := h
  exact ⟨route, hlookup.trans hroute, hpending, hwaker⟩

/-- **No waker is lost** by a step that takes no other task's place. -/
theorem NoLostWakeup.effect [LawfulPollSender S] {ev : OutboundEvent} {tasks' : OutboundTasks S}
    (h : tasks.NoLostWakeup) (hkeeps : tasks.KeepsWakers ev) (heffect : Effect tasks ev tasks') :
    tasks'.NoLostWakeup := by
  intro t sessionId' hwaiting
  cases heffect with
  | refused cx packet =>
    have hupdate : Function.update tasks.waiting cx none t = some sessionId' := hwaiting
    have ht : t ≠ cx := by
      rintro rfl
      simp at hupdate
    rw [Function.update_of_ne ht] at hupdate
    exact h t sessionId' hupdate
  | @waits cx packet sessionId route sender hid hroute hreserve =>
    have hupdate : Function.update tasks.waiting cx (some sessionId) t = some sessionId' := hwaiting
    by_cases ht : t = cx
    · subst ht
      rw [Function.update_self, Option.some.injEq] at hupdate
      subst hupdate
      exact ⟨⟨sender, some t⟩, AList.lookup_insert _, rfl,
        LawfulPollSender.waker_of_pending hreserve⟩
    · rw [Function.update_of_ne ht] at hupdate
      have hne : sessionId' ≠ sessionId := by
        rintro rfl
        exact hkeeps sessionId' hid t ht hupdate
      exact (h t sessionId' hupdate).of_lookup_eq (AList.lookup_insert_ne hne)
  | @pushed cx packet sessionId route sender hid hroute =>
    have hupdate : Function.update tasks.waiting cx none t = some sessionId' := hwaiting
    have ht : t ≠ cx := by
      rintro rfl
      simp at hupdate
    rw [Function.update_of_ne ht] at hupdate
    have hne : sessionId' ≠ sessionId := by
      rintro rfl
      exact hkeeps sessionId' hid t ht hupdate
    exact (h t sessionId' hupdate).of_lookup_eq (AList.lookup_insert_ne hne)
  | idle hquiet => exact h t sessionId' hwaiting
  | @freed _ sessionId route sender hquiet hroute =>
    obtain ⟨hasleep, hwaiting⟩ := wake_eq_some.mp hwaiting
    have harmed := h t sessionId' hwaiting
    refine harmed.of_lookup_eq (AList.lookup_insert_ne ?_)
    rintro rfl
    -- the waker of this session's sender was woken
    obtain ⟨route', hroute', -, hwaker⟩ := harmed
    obtain rfl := Option.some.inj (hroute.symm.trans hroute')
    exact hasleep (by simp [hwaker])
  | refusedRegistration hclosed => exact h t sessionId' hwaiting
  | @registered sessionId hopen =>
    have hne : sessionId' ≠ sessionId := by
      rintro rfl
      exact hkeeps t hwaiting
    exact (h t sessionId' hwaiting).of_lookup_eq (AList.lookup_insert_ne hne)
  | @unregistered sessionId route hroute =>
    obtain ⟨hasleep, hwaiting⟩ := wake_eq_some.mp hwaiting
    have harmed := h t sessionId' hwaiting
    refine harmed.of_lookup_eq (AList.lookup_erase_ne ?_)
    rintro rfl
    obtain ⟨route', hroute', hpending, -⟩ := harmed
    obtain rfl := Option.some.inj (hroute.symm.trans hroute')
    exact hasleep (by simp [hpending])
  | closed =>
    obtain ⟨hasleep, hwaiting⟩ := wake_eq_some.mp hwaiting
    obtain ⟨route, hroute, hpending, -⟩ := h t sessionId' hwaiting
    exact absurd (mem_woken_of_close hroute hpending) hasleep

/-- **A step that takes another task's place loses its waker.** -/
theorem keepsWakers_of_noLostWakeup [LawfulPollSender S] {ev : OutboundEvent}
    (hclosed : tasks.ClosedEmpty) (h : tasks.NoLostWakeup) (hstep : (tasks.step ev).NoLostWakeup) :
    tasks.KeepsWakers ev := by
  cases ev with
  | poll cx packet =>
    intro sessionId hid t hne hwaiting
    obtain ⟨route, hroute, -, hwaker⟩ := h t sessionId hwaiting
    obtain ⟨sender, hpush⟩ := SessionState.pollPushOutbound_of_waker cx hid
      (hclosed.hub_open hroute) hroute hwaker
    have hwaiting' : (tasks.step (.poll cx packet)).waiting t = some sessionId := by
      simp only [step, hpush]
      rw [Function.update_of_ne hne, hwaiting]
    obtain ⟨route', hroute', hpending, -⟩ := hstep t sessionId hwaiting'
    simp only [step, hpush] at hroute'
    rw [AList.lookup_insert, Option.some.injEq] at hroute'
    subst hroute'
    exact hne (Option.some.inj hpending).symm
  | register sessionId =>
    intro t hwaiting
    obtain ⟨route, hroute, -, -⟩ := h t sessionId hwaiting
    obtain ⟨route', hroute', hpending, -⟩ := hstep t sessionId hwaiting
    simp only [step, SessionState.registerOutboundSession, hclosed.hub_open hroute,
      Bool.false_eq_true, if_false] at hroute'
    rw [AList.lookup_insert, Option.some.injEq] at hroute'
    subst hroute'
    exact absurd hpending (by simp)
  | recv sessionId | dropReceiver sessionId | unregister sessionId | close => trivial

/-- **No wake-up is lost** in a run exactly when no push and no registration of the run meets
another task that waits for its session; and the waker of an armed task is woken by whatever comes
next: a packet that leaves the channel, the end of its receiver, of the route or of the hub. -/
theorem noLostWakeup_iff [LawfulPollSender S] (recvCapacity outboundCapacity : ℕ)
    (events : List OutboundEvent) :
    ((∀ pre post, events = pre ++ post →
        (pre.foldl step (new recvCapacity outboundCapacity : OutboundTasks S)).NoLostWakeup) ↔
      Runs.Guarded (Runs.total step) KeepsWakers
        (new recvCapacity outboundCapacity : OutboundTasks S) events) ∧
    ∀ (tasks : OutboundTasks S) (t : Waker) (sessionId : FixedBytes 16),
      tasks.Armed t sessionId →
        (tasks.hub.recvOutbound sessionId ≠ none →
          (tasks.step (.recv sessionId)).waiting t = none) ∧
        (tasks.step (.dropReceiver sessionId)).waiting t = none ∧
        (tasks.step (.unregister sessionId)).waiting t = none ∧
        (tasks.step .close).waiting t = none := by
  refine ⟨?_, fun tasks t sessionId h => h.woken⟩
  have hnew : (new recvCapacity outboundCapacity : OutboundTasks S).NoLostWakeup :=
    fun t sessionId hwaiting => absurd hwaiting (by simp [new])
  have hempty : (new recvCapacity outboundCapacity : OutboundTasks S).ClosedEmpty := fun _ => rfl
  rw [Runs.foldl_forall_prefix_iff_guarded (I := ClosedEmpty) (g := KeepsWakers)
    (fun tasks ev h => (tasks.step_effect ev).closedEmpty h)
    (fun tasks ev hclosed h => ⟨keepsWakers_of_noLostWakeup hclosed h,
      fun hkeeps => h.effect hkeeps (tasks.step_effect ev)⟩) events hempty]
  exact and_iff_right hnew

end Channel

/-! ## Concrete runs -/

section Sample

open WebRtcPacketFrame

/-- A packet of the frame `hello`. -/
def helloPacket : OutboundPacket where
  destination := ⟨webrtcTransportId, []⟩
  bytes := headerBytes 3 helloFrame.sessionId 0 5 ++ helloFrame.payload

/-- Task `0` fills the channel of the session and waits. -/
def waitingRun : List OutboundEvent :=
  [.register helloFrame.sessionId, .poll 0 helloPacket, .poll 0 helloPacket]

theorem noLostWakeup_iff_sample :
    ((∀ pre post, waitingRun = pre ++ post →
        (pre.foldl step (new 1 1 : OutboundTasks BoundedChannel)).NoLostWakeup) ↔
      Runs.Guarded (Runs.total step) KeepsWakers (new 1 1 : OutboundTasks BoundedChannel)
        waitingRun) ∧
    ((waitingRun.foldl step (new 1 1 : OutboundTasks BoundedChannel)).step
      (.unregister helloFrame.sessionId)).waiting 0 = none := by
  obtain ⟨hiff, hwoken⟩ := noLostWakeup_iff (S := BoundedChannel) 1 1 waitingRun
  have harmed : (waitingRun.foldl step (new 1 1 : OutboundTasks BoundedChannel)).Armed 0
      helloFrame.sessionId := ⟨_, rfl, rfl, rfl⟩
  exact ⟨hiff, (hwoken _ _ _ harmed).2.2.1⟩

/-- **A new registration loses the waker of a task that waits**, and so does a push by another
task. -/
theorem reregistration_loses_waker :
    ¬ ((waitingRun ++ [OutboundEvent.register helloFrame.sessionId]).foldl step
        (new 1 1 : OutboundTasks BoundedChannel)).NoLostWakeup ∧
      ¬ ((waitingRun ++ [OutboundEvent.poll 1 helloPacket]).foldl step
        (new 1 1 : OutboundTasks BoundedChannel)).NoLostWakeup := by
  refine ⟨fun h => ?_, fun h => ?_⟩
  · obtain ⟨route, hroute, hpending, -⟩ := h 0 helloFrame.sessionId rfl
    obtain rfl : _ = route := Option.some.inj hroute
    exact absurd hpending (by decide)
  · obtain ⟨route, hroute, hpending, -⟩ := h 0 helloFrame.sessionId rfl
    obtain rfl : _ = route := Option.some.inj hroute
    exact absurd hpending (by decide)

end Sample

end OutboundTasks

end IrohWebRtc
