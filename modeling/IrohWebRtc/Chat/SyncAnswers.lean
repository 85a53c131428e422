import IrohWebRtc.Chat.Room
import IrohWebRtc.Lib.Runs

/-!
# Answers to `Sync`

The receiver task of a topic and the announcements it schedules: a `Sync` starts a task that
sleeps, broadcasts an `AboutMe` and clears `pending_announce`, unless that flag says that there is
one already.  The receiver takes a frame from its stream, waits for its decryption, and then
handles it; in between the other tasks go on.

The flag is cleared after the broadcast.  A `Sync` that is received while the broadcast is under
way and handled before it is over finds the flag set, and no later broadcast answers it.

A broadcast answers the `Sync`s that were received before it began: a peer that has sent one has
subscribed by then and will hear it.  A broadcast that has begun may have passed that peer by.  So
each received `Sync` is noted until a broadcast that begins later has ended, and the question is
whether one is noted for which none is to come.

* `Pending.step`: at most one announcement is pending.
* `answered_step`: which steps leave no `Sync` unanswered.
* `syncAnswers_iff`: every `Sync` is answered exactly in the runs without such a `Sync`.
* `sync_during_broadcast_is_lost`: a run with one.
-/

namespace IrohWebRtc

open Bytes Utf8 Runs

/-- Where an announcement after a `Sync` is. -/
inductive AnnouncePhase where
  | sleeping
  | broadcasting
  deriving DecidableEq, Repr

/-- What is noted of a run: the `Sync`s that were received, and the broadcasts of an `AboutMe` that
have started. -/
inductive SyncEntry where
  | syncReceived
  | broadcastStarts
  deriving DecidableEq, Repr

/-- The receiver task with the frame it is decrypting, and the announcements under way. -/
structure SyncTrace where
  room : RoomTask
  frame : Option (List UInt8)
  announces : List AnnouncePhase
  left : Bool
  log : List SyncEntry

inductive SyncEvent where
  /-- The receiver takes a frame from its stream. -/
  | takes (content : List UInt8)
  /-- The frame is decrypted and handled. -/
  | handles
  /-- Any other event of the stream. -/
  | other (input : RoomInput)
  /-- The sleep of an announcement ends, and its broadcast starts. -/
  | wakes (announce : ℕ)
  /-- The broadcast of an announcement is over. -/
  | broadcastDone (announce : ℕ)
  /-- The announcement of a `Join` starts its broadcast. -/
  | joinAnnounces
  /-- `Leave` aborts the receiver. -/
  | leaves

namespace SyncTrace

/-- The task of a topic that was just joined. -/
def new (topic : String) (keys : RoomKeys) : SyncTrace where
  room := .new topic keys
  frame := none
  announces := []
  left := false
  log := []

section Libraries

variable [ChatLibraries]

/-- The frame is a `Sync`. -/
def isSync (s : SyncTrace) (content : List UInt8) : Bool := s.room.keys.wireOf content = some .sync

/-- An event of the stream that is not a frame. -/
def isOther : RoomInput → Bool
  | .received _ | .announced => false
  | _ => true

/-- The entries of such an event. -/
def entriesOf : RoomInput → List SyncEntry
  | .neighborUp _ _ => [.broadcastStarts]
  | _ => []

def step (s : SyncTrace) : SyncEvent → Option SyncTrace
  | .takes content =>
    if s.room.ended ∨ s.frame.isSome then none
    else some { s with
      frame := some content
      log := s.log ++ if s.isSync content then [.syncReceived] else [] }
  | .handles =>
    match s.frame with
    | none => none
    | some content =>
      let room := (s.room.step (.received content)).1
      some { s with
        room := room
        frame := none
        -- `compare_exchange` succeeds when it sets the flag
        announces :=
          if room.pendingAnnounce && !s.room.pendingAnnounce then s.announces ++ [.sleeping]
          else s.announces }
  | .other input =>
    if (s.room.ended ∨ s.frame.isSome) ∨ isOther input = false then none
    else some { s with
      room := (s.room.step input).1
      log := s.log ++ entriesOf input }
  | .wakes n =>
    match s.announces[n]? with
    | some .sleeping => some { s with
        announces := s.announces.set n .broadcasting
        log := s.log ++ [.broadcastStarts] }
    | _ => none
  | .broadcastDone n =>
    match s.announces[n]? with
    | some .broadcasting => some { s with
        room := (s.room.step .announced).1
        announces := s.announces.eraseIdx n }
    | _ => none
  | .joinAnnounces => some { s with log := s.log ++ [.broadcastStarts] }
  | .leaves =>
    some { s with
      room := { s.room with ended := true }
      frame := none
      left := true }

/-! ## What the receiver does to the flag -/

omit [ChatLibraries] in
theorem ended_eq_false_of_not {s : SyncTrace} (h : ¬ (s.room.ended = true ∨ s.frame.isSome = true)) :
    s.room.ended = false ∧ s.frame = none := by
  obtain ⟨hended, hframe⟩ := not_or.mp h
  exact ⟨Bool.eq_false_iff.mpr hended, by simpa using hframe⟩

/-- A frame sets the flag when it is a `Sync`, and changes it in no other case. -/
theorem pendingAnnounce_received {task : RoomTask} (hended : task.ended = false)
    (content : List UInt8) :
    (task.step (.received content)).1.pendingAnnounce =
      (task.pendingAnnounce || decide (task.keys.wireOf content = some .sync)) := by
  rw [RoomTask.step_received hended]
  rcases hwire : task.keys.wireOf content with _ | wire
  · simp [RoomTask.receive, hwire]
  cases hcredentials : wire.credentials with
  | none =>
    cases wire with
    | sync | unknown => simp [RoomTask.receive, hwire]
    | _ => exact absurd hcredentials (by simp [ChatWireMessage.credentials])
  | some credentials =>
    obtain ⟨signer, nonce, sig⟩ := credentials
    have hne : wire ≠ .sync := by
      rintro rfl
      exact absurd hcredentials (by simp [ChatWireMessage.credentials])
    obtain ⟨event, -, hreceive⟩ := RoomTask.receive_authenticated hwire hcredentials
    rcases task.accept_cases hcredentials with ⟨_, -, haccept⟩ | ⟨-, haccept⟩ <;>
      rw [hreceive, haccept] <;> simp [RoomTask.remember, hne]

/-- What is not a frame leaves the flag alone. -/
theorem pendingAnnounce_other (task : RoomTask) {input : RoomInput} (h : isOther input = true) :
    (task.step input).1.pendingAnnounce = task.pendingAnnounce := by
  unfold RoomTask.step
  by_cases hended : task.ended = true
  · rw [if_pos hended]
  · rw [if_neg hended]
    cases input with
    | received content => cases h
    | announced => cases h
    | _ => rfl

omit [ChatLibraries] in
theorem entriesOf_cases (input : RoomInput) :
    entriesOf input = [] ∨ entriesOf input = [.broadcastStarts] := by
  cases input with
  | neighborUp => exact Or.inr rfl
  | _ => exact Or.inl rfl

/-! ## What each step does -/

theorem step_takes {s t : SyncTrace} {content : List UInt8} (h : step s (.takes content) = some t) :
    s.room.ended = false ∧ s.frame = none ∧
      t = { s with
        frame := some content
        log := s.log ++ if s.isSync content then [.syncReceived] else [] } := by
  rw [step] at h
  by_cases hbusy : s.room.ended = true ∨ s.frame.isSome = true
  · rw [if_pos hbusy] at h
    cases h
  · rw [if_neg hbusy] at h
    obtain ⟨hended, hframe⟩ := ended_eq_false_of_not hbusy
    exact ⟨hended, hframe, (Option.some.inj h).symm⟩

/-- A `Sync` starts an announcement when the flag is not set. -/
theorem step_handles {s t : SyncTrace} (h : step s .handles = some t) :
    ∃ content, s.frame = some content ∧ t.frame = none ∧ t.left = s.left ∧ t.log = s.log ∧
      t.room = (s.room.step (.received content)).1 ∧
      (s.room.ended = false → t.announces =
        if s.isSync content ∧ s.room.pendingAnnounce = false then s.announces ++ [.sleeping]
        else s.announces) := by
  rw [step] at h
  cases hframe : s.frame with
  | none =>
    rw [hframe] at h
    cases h
  | some content =>
    rw [hframe] at h
    obtain rfl := Option.some.inj h
    refine ⟨content, rfl, rfl, rfl, rfl, rfl, fun hended => ?_⟩
    show (if _ then _ else _) = _
    rw [pendingAnnounce_received hended]
    refine if_congr ?_ rfl rfl
    rw [isSync]
    cases s.room.pendingAnnounce <;> simp

theorem step_other {s t : SyncTrace} {input : RoomInput} (h : step s (.other input) = some t) :
    s.room.ended = false ∧ s.frame = none ∧ isOther input = true ∧
      t = { s with
        room := (s.room.step input).1
        log := s.log ++ entriesOf input } := by
  rw [step] at h
  by_cases hnot : (s.room.ended = true ∨ s.frame.isSome = true) ∨ isOther input = false
  · rw [if_pos hnot] at h
    cases h
  · rw [if_neg hnot] at h
    obtain ⟨hbusy, hother⟩ := not_or.mp hnot
    obtain ⟨hended, hframe⟩ := ended_eq_false_of_not hbusy
    exact ⟨hended, hframe, Bool.eq_true_of_not_eq_false hother, (Option.some.inj h).symm⟩

theorem step_wakes {s t : SyncTrace} {n : ℕ} (h : step s (.wakes n) = some t) :
    s.announces[n]? = some .sleeping ∧
      t = { s with
        announces := s.announces.set n .broadcasting
        log := s.log ++ [.broadcastStarts] } := by
  rw [step] at h
  rcases hphase : s.announces[n]? with _ | phase
  · rw [hphase] at h
    cases h
  · rw [hphase] at h
    cases phase with
    | sleeping => exact ⟨rfl, (Option.some.inj h).symm⟩
    | broadcasting => cases h

theorem step_broadcastDone {s t : SyncTrace} {n : ℕ} (h : step s (.broadcastDone n) = some t) :
    s.announces[n]? = some .broadcasting ∧
      t = { s with
        room := (s.room.step .announced).1
        announces := s.announces.eraseIdx n } := by
  rw [step] at h
  rcases hphase : s.announces[n]? with _ | phase
  · rw [hphase] at h
    cases h
  · rw [hphase] at h
    cases phase with
    | sleeping => cases h
    | broadcasting => exact ⟨rfl, (Option.some.inj h).symm⟩

/-! ## At most one announcement -/

/-- The flag says whether there is an announcement, as long as the receiver runs. -/
structure Pending (s : SyncTrace) : Prop where
  atMostOne : s.announces.length ≤ 1
  flag : s.room.ended = false → (s.room.pendingAnnounce = true ↔ s.announces ≠ [])
  running : s.frame.isSome = true → s.room.ended = false
  left : s.left = true → s.room.ended = true

omit [ChatLibraries] in
theorem pending_new (topic : String) (keys : RoomKeys) : (new topic keys).Pending where
  atMostOne := Nat.zero_le 1
  flag := fun _ => by simp [new, RoomTask.new]
  running := fun h => by simp [new] at h
  left := fun h => by simp [new] at h

omit [ChatLibraries] in
/-- The only announcement there is, once one is known. -/
theorem Pending.eq_singleton {s : SyncTrace} (hs : s.Pending) {n : ℕ} {phase : AnnouncePhase}
    (h : s.announces[n]? = some phase) : n = 0 ∧ s.announces = [phase] := by
  have hone := hs.atMostOne
  obtain ⟨hlt, hget⟩ := List.getElem?_eq_some_iff.mp h
  obtain rfl : n = 0 := by omega
  obtain ⟨first, hfirst⟩ := List.length_eq_one_iff.mp (by omega : s.announces.length = 1)
  simp only [hfirst, List.getElem_cons_zero] at hget
  exact ⟨rfl, by rw [hfirst, hget]⟩

/-- A `Sync` starts an announcement only when none is pending. -/
theorem Pending.handles {s t : SyncTrace} (hs : s.Pending) (h : s.step .handles = some t) :
    t.Pending := by
  obtain ⟨content, hframe, hframe', hleft', -, hroom, hannounces⟩ := step_handles h
  have hended : s.room.ended = false := hs.running (by rw [hframe]; rfl)
  have hflag := hs.flag hended
  have hpending : t.room.pendingAnnounce = (s.room.pendingAnnounce || s.isSync content) := by
    rw [hroom, pendingAnnounce_received hended]
    rfl
  have hleft : t.left ≠ true := by
    intro hleft
    rw [hleft'] at hleft
    exact absurd (hs.left hleft) (by simp [hended])
  have hnew := hannounces hended
  by_cases hspawn : s.isSync content = true ∧ s.room.pendingAnnounce = false
  · rw [if_pos hspawn] at hnew
    have hnil : s.announces = [] := by
      rw [hspawn.2] at hflag
      simpa using hflag
    rw [hnil, List.nil_append] at hnew
    exact ⟨by simp [hnew], fun _ => by simp [hpending, hspawn.1, hnew],
      fun hsome => by simp [hframe'] at hsome, fun hl => absurd hl hleft⟩
  · rw [if_neg hspawn] at hnew
    have hsame : t.room.pendingAnnounce = s.room.pendingAnnounce := by
      rw [hpending]
      cases hp : s.room.pendingAnnounce with
      | true => rfl
      | false => exact Bool.eq_false_iff.mpr fun hsync => hspawn ⟨hsync, hp⟩
    exact ⟨by rw [hnew]; exact hs.atMostOne, fun _ => by rw [hsame, hnew]; exact hflag,
      fun hsome => by simp [hframe'] at hsome, fun hl => absurd hl hleft⟩

theorem Pending.step {s t : SyncTrace} {ev : SyncEvent} (hs : s.Pending) (h : s.step ev = some t) :
    t.Pending := by
  cases ev with
  | takes content =>
    obtain ⟨hended, -, rfl⟩ := step_takes h
    exact ⟨hs.atMostOne, hs.flag, fun _ => hended, hs.left⟩
  | handles => exact hs.handles h
  | other input =>
    obtain ⟨hended, hframe, hother, rfl⟩ := step_other h
    refine ⟨hs.atMostOne, fun _ => ?_, fun hsome => by simp [hframe] at hsome, fun hleft => ?_⟩
    · show (s.room.step input).1.pendingAnnounce = true ↔ _
      rw [pendingAnnounce_other _ hother]
      exact hs.flag hended
    · exact absurd (hs.left hleft) (by simp [hended])
  | wakes n =>
    obtain ⟨hphase, rfl⟩ := step_wakes h
    obtain ⟨rfl, hone⟩ := hs.eq_singleton hphase
    refine ⟨by simp [hone], fun hended => ?_, hs.running, hs.left⟩
    simpa [hone] using hs.flag hended
  | broadcastDone n =>
    obtain ⟨hphase, rfl⟩ := step_broadcastDone h
    obtain ⟨rfl, hone⟩ := hs.eq_singleton hphase
    have hended : (s.room.step .announced).1.ended = s.room.ended := by
      rw [(s.room.step_frame .announced).2.2]
      exact Bool.or_false _
    refine ⟨by simp [hone], fun hrunning => ?_, fun hsome => ?_, fun hleft => ?_⟩
    · have hrunning : s.room.ended = false := hended ▸ hrunning
      show (s.room.step .announced).1.pendingAnnounce = true ↔ _
      simp [RoomTask.step, hrunning, hone]
    · exact hended.trans (hs.running hsome)
    · exact hended.trans (hs.left hleft)
  | joinAnnounces =>
    obtain rfl := Option.some.inj h
    exact ⟨hs.atMostOne, hs.flag, hs.running, hs.left⟩
  | leaves =>
    obtain rfl := Option.some.inj h
    exact ⟨hs.atMostOne, fun hended => by simp at hended, fun hsome => by simp at hsome,
      fun _ => rfl⟩

/-! ## Answers -/

/-- A `Sync` is being decrypted. -/
def Handling (s : SyncTrace) : Prop := ∃ content, s.frame = some content ∧ s.isSync content = true

/-- Every `Sync` that was received is followed by the start of a broadcast, or by an announcement
that has yet to wake up, or is the one that is being decrypted; unless the topic was left. -/
def Answered (s : SyncTrace) : Prop :=
  s.left = true ∨ ∀ pre post, s.log = pre ++ .syncReceived :: post →
    .broadcastStarts ∈ post ∨ .sleeping ∈ s.announces ∨ .syncReceived ∉ post ∧ s.Handling

/-- A `Sync` that is handled while an announcement is broadcast was received before that broadcast
started. -/
def HandledInTime (s : SyncTrace) : SyncEvent → Prop
  | .handles => s.Handling → .broadcasting ∈ s.announces → s.log.getLast? ≠ some .syncReceived
  | _ => True

/-- After the start of a broadcast every `Sync` is answered. -/
theorem answered_of_starts {s : SyncTrace} {l : List SyncEntry}
    (h : s.log = l ++ [.broadcastStarts]) : s.Answered := by
  refine Or.inr fun pre post hsplit => Or.inl ?_
  rw [h] at hsplit
  rcases append_singleton_eq_append_cons hsplit with ⟨-, -, hne⟩ | ⟨post', rfl, -⟩
  · cases hne
  · exact List.mem_append_right _ (List.mem_singleton.mpr rfl)

/-- A frame that is taken is being decrypted, when it is a `Sync`. -/
theorem answered_takes {s t : SyncTrace} {content : List UInt8} (hs : s.Answered)
    (h : s.step (.takes content) = some t) : t.Answered := by
  obtain ⟨-, hframe, rfl⟩ := step_takes h
  have hnot : ¬ s.Handling := by
    rintro ⟨content', hframe', -⟩
    rw [hframe] at hframe'
    cases hframe'
  refine hs.imp_right fun hall pre post hsplit => ?_
  have hold : ∀ {post'}, s.log = pre ++ .syncReceived :: post' →
      .broadcastStarts ∈ post' ∨ .sleeping ∈ s.announces := fun hlog =>
    (hall pre _ hlog).imp_right fun h => h.resolve_right fun h => hnot h.2
  by_cases hsync : s.isSync content = true
  · simp only [if_pos hsync] at hsplit
    rcases append_singleton_eq_append_cons hsplit with ⟨rfl, -, -⟩ | ⟨post', rfl, hlog⟩
    · exact Or.inr (Or.inr ⟨List.not_mem_nil, content, rfl, hsync⟩)
    · exact (hold hlog).imp (List.mem_append_left _) Or.inl
  · simp only [if_neg hsync, List.append_nil] at hsplit
    exact (hold hsplit).imp_right Or.inl

/-- Handling a frame leaves no `Sync` unanswered when it is done in time, and only then. -/
theorem answered_handles {s t : SyncTrace} (hp : s.Pending) (hs : s.Answered)
    (h : s.step .handles = some t) : t.Answered ↔ s.HandledInTime .handles := by
  obtain ⟨content, hframe, hframe', hleft, hlog, -, hannounces⟩ := step_handles h
  have hended : s.room.ended = false := hp.running (by rw [hframe]; rfl)
  have hstays : ¬ s.left = true := fun hl => absurd (hp.left hl) (by simp [hended])
  have hnew := hannounces hended
  have hflag := hp.flag hended
  have hidle : ¬ t.Handling := by
    rintro ⟨content', hsome, -⟩
    rw [hframe'] at hsome
    cases hsome
  constructor
  · rintro hanswered ⟨content', hframe'', hsync⟩ hbroadcasting hlast
    obtain ⟨n, hn⟩ := List.mem_iff_getElem?.mp hbroadcasting
    have hone := (hp.eq_singleton hn).2
    have hpending : s.room.pendingAnnounce = true := hflag.mpr (by simp [hone])
    rw [if_neg (by simp [hpending]), hone] at hnew
    obtain ⟨pre, hpre⟩ := List.getLast?_eq_some_iff.mp hlast
    rw [Answered, hleft, hlog, hnew] at hanswered
    rcases hanswered.resolve_left hstays pre [] hpre with hmem | hmem | ⟨-, hhandling⟩
    · exact absurd hmem List.not_mem_nil
    · exact absurd (List.mem_singleton.mp hmem) (by simp)
    · exact hidle hhandling
  · intro hintime
    refine Or.inr fun pre post hsplit => ?_
    rw [hlog] at hsplit
    rcases hs.resolve_left hstays pre post hsplit with hstarts | hsleeps | ⟨hno, hhandling⟩
    · exact Or.inl hstarts
    · refine Or.inr (Or.inl ?_)
      rw [hnew]
      split_ifs
      · exact List.mem_append_left _ hsleeps
      · exact hsleeps
    · obtain ⟨content', hsome, hsync⟩ := hhandling
      obtain rfl := Option.some.inj (hframe.symm.trans hsome)
      cases hpending : s.room.pendingAnnounce with
      | false =>
        -- the `Sync` starts an announcement of its own
        rw [if_pos ⟨hsync, hpending⟩] at hnew
        exact Or.inr (Or.inl (hnew ▸ List.mem_append_right _ (List.mem_singleton.mpr rfl)))
      | true =>
        rw [if_neg (by simp [hpending])] at hnew
        obtain ⟨phase, hone⟩ := List.length_eq_one_iff.mp (show s.announces.length = 1 by
          have hpos := List.length_pos_iff.mpr (hflag.mp hpending)
          have hmost := hp.atMostOne
          omega)
        cases phase with
        | sleeping => exact Or.inr (Or.inl (by rw [hnew, hone]; exact List.mem_singleton.mpr rfl))
        | broadcasting =>
          -- its broadcast has started since the `Sync` was received
          have hlast := hintime ⟨_, hframe, hsync⟩ (by rw [hone]; exact List.mem_singleton.mpr rfl)
          refine Or.inl ?_
          cases post with
          | nil =>
            exact absurd (by rw [hsplit]; exact List.getLast?_concat) hlast
          | cons entry post =>
            cases entry with
            | broadcastStarts => exact List.mem_cons_self
            | syncReceived => exact absurd List.mem_cons_self hno

/-- **Which steps leave no `Sync` unanswered.** -/
theorem answered_step {s t : SyncTrace} {ev : SyncEvent} (hp : s.Pending) (hs : s.Answered)
    (h : s.step ev = some t) : t.Answered ↔ s.HandledInTime ev := by
  cases ev with
  | takes content => exact iff_of_true (answered_takes hs h) trivial
  | handles => exact answered_handles hp hs h
  | other input =>
    obtain ⟨-, hframe, -, rfl⟩ := step_other h
    refine iff_of_true ?_ trivial
    rcases entriesOf_cases input with hnil | hstarts
    · refine hs.imp_right fun hall pre post hsplit => ?_
      simp only [hnil, List.append_nil] at hsplit
      refine (hall pre post hsplit).imp_right (Or.imp_right ?_)
      rintro ⟨-, content, hsome, -⟩
      rw [hframe] at hsome
      cases hsome
    · exact answered_of_starts (congrArg _ hstarts)
  | wakes n =>
    obtain ⟨-, rfl⟩ := step_wakes h
    exact iff_of_true (answered_of_starts rfl) trivial
  | broadcastDone n =>
    obtain ⟨hphase, rfl⟩ := step_broadcastDone h
    obtain ⟨-, hone⟩ := hp.eq_singleton hphase
    refine iff_of_true (hs.imp_right fun hall pre post hsplit => ?_) trivial
    refine (hall pre post hsplit).imp_right (Or.imp (fun hsleeps => ?_) (And.imp_right ?_))
    · rw [hone] at hsleeps
      exact absurd (List.mem_singleton.mp hsleeps) (by simp)
    · rintro ⟨content, hframe, hsync⟩
      refine ⟨content, hframe, ?_⟩
      rw [isSync] at hsync ⊢
      show decide ((s.room.step .announced).1.keys.wireOf content = some .sync) = true
      rw [(s.room.step_frame .announced).2.1, hsync]
  | joinAnnounces =>
    obtain rfl := Option.some.inj h
    exact iff_of_true (answered_of_starts rfl) trivial
  | leaves =>
    obtain rfl := Option.some.inj h
    exact iff_of_true (Or.inl rfl) trivial

theorem answered_new (topic : String) (keys : RoomKeys) : (new topic keys).Answered :=
  Or.inr fun _ _ h => absurd h (by simp [new])

/-! ## Runs -/

variable {topic : String} {keys : RoomKeys} {events : List SyncEvent} {s : SyncTrace}

/-- **Answers to `Sync`**: at any time at most one announcement is pending; every `Sync` is answered
in all states of a run exactly when each that is handled while an announcement is broadcast was
received before that broadcast started; and then every `Sync` has been followed by a broadcast when
the tasks of the run are done. -/
theorem syncAnswers_iff (hrun : run step (new topic keys) events = some s) :
    (∀ pre post t, events = pre ++ post → run step (new topic keys) pre = some t →
      t.announces.length ≤ 1) ∧
    ((∀ pre post t, events = pre ++ post → run step (new topic keys) pre = some t → t.Answered) ↔
      Guarded step HandledInTime (new topic keys) events) ∧
    (Guarded step HandledInTime (new topic keys) events → s.left = false → s.frame = none →
      s.announces = [] → ∀ pre post, s.log = pre ++ .syncReceived :: post →
        .broadcastStarts ∈ post) := by
  have hpending : ∀ s ev t, Pending s → step s ev = some t → Pending t := fun _ _ _ => Pending.step
  have hiff := forall_prefix_iff_guarded (g := HandledInTime) (P := Answered) hpending
    (fun _ _ _ hp ha => answered_step hp ha) (pending_new topic keys) hrun
  refine ⟨fun pre post t _ hpre => ?_, ?_, fun hguard hleft hframe hannounces pre post hlog => ?_⟩
  · exact (run_invariant hpending (pending_new topic keys) hpre).atMostOne
  · rw [hiff]
    exact and_iff_right (answered_new topic keys)
  · have hend := hiff.mpr ⟨answered_new topic keys, hguard⟩ events [] s (by simp) hrun
    rcases hend.resolve_left (by simp [hleft]) pre post hlog with
      hstarts | hsleeps | ⟨-, content, hsome, -⟩
    · exact hstarts
    · rw [hannounces] at hsleeps
      exact absurd hsleeps List.not_mem_nil
    · rw [hframe] at hsome
      cases hsome

end Libraries

section Sample

open Sample

/-- A `Sync` in the sample room. -/
def syncCiphertext : List UInt8 :=
  hexBytes "ee62baaa69bf7f67112827585eb88d451d1d45bf8feb30291a3587d8842ad5"

def syncJson : List UInt8 := utf8Bytes "\x7b\"type\":\"sync\"\x7d"

def syncFrame : List UInt8 := frameOf 4 syncCiphertext

local instance : ChatLibraries where
  parsePublicKey _ := none
  verify _ _ _ := false
  aesGcmDecrypt key iv ct :=
    if key = roomKeys.aesKey ∧ iv = List.replicate 12 4 ∧ ct = syncCiphertext then .ok syncJson
    else .error "OperationError"
  fromSlice bs := if bs = syncJson then some .sync else none

/-- One announcement answers two `Sync`s. -/
theorem syncAnswers_iff_sample :
    ∃ s, run step (new "room" roomKeys)
        [.takes syncFrame, .handles, .takes syncFrame, .handles, .wakes 0, .broadcastDone 0] =
          some s ∧ s.announces.length ≤ 1 := by
  have hsome : (run step (new "room" roomKeys) [.takes syncFrame, .handles, .takes syncFrame,
      .handles, .wakes 0, .broadcastDone 0]).isSome = true := by
    decide +kernel
  obtain ⟨s, hs⟩ := Option.isSome_iff_exists.mp hsome
  exact ⟨s, hs, (syncAnswers_iff hs).1 _ [] s (by simp) hs⟩

/-- The second `Sync` is received and handled while the announcement after the first one is
broadcast.  All tasks end, and it is not answered. -/
theorem sync_during_broadcast_is_lost :
    ∃ s, run step (new "room" roomKeys)
        [.takes syncFrame, .handles, .wakes 0, .takes syncFrame, .handles, .broadcastDone 0] =
          some s ∧
      s.log = [.syncReceived, .broadcastStarts, .syncReceived] ∧ s.left = false ∧
      s.frame = none ∧ s.announces = [] := by
  have hend : (run step (new "room" roomKeys) [.takes syncFrame, .handles, .wakes 0,
      .takes syncFrame, .handles, .broadcastDone 0]).map
        (fun s => (s.log, s.left, s.frame, s.announces)) =
      some ([.syncReceived, .broadcastStarts, .syncReceived], false, none, []) := by
    decide +kernel
  obtain ⟨s, hs, hfields⟩ := Option.map_eq_some_iff.mp hend
  obtain ⟨hlog, hleft, hframe, hannounces⟩ : _ ∧ _ ∧ _ ∧ _ := by simpa using hfields
  exact ⟨s, hs, hlog, hleft, hframe, hannounces⟩

end Sample

end SyncTrace

end IrohWebRtc
