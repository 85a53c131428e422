import IrohWebRtc.Chat.Tab

/-!
# Signing on again

`Chat.Profile` says how a profile is encrypted, written, read and decrypted.  What it cannot say is
which profiles there are: the rooms that `chat_room.rs` saves are those of a running tab, and
whether they come back as they were depends on how that tab came by them.  A profile holds of a room
its secret and not its topic, so a room whose topic is not the one of its secret would be another
room afterwards.

This module therefore joins the tab to the storage.  An `App` is a user's tab with the storage of
the browser and the calls of `save_profile` that are under way, and a run of it is the history of
the user over any number of sessions: in each the user does what `Chat.Tab` allows; the component is
rendered whenever it pleases, and saves when its name or its rooms have changed; the calls that save
finish in any order, and each of them may fail at every place where `storage.rs` lets it; in between
anything else may be written to the storage; and at any time the page may be loaded again, which
ends the calls under way, and the user signs on with the passphrase.

## Why the rooms come back

* `App.Kept.topics`: every room goes under the topic of its secret.  The calls of the user derive
  the topic, `into_rooms` does so too, and no action changes either of the two.
* `RoomsInOrder`: no two rooms have the same topic, and the lists of each are in order.  The reducer
  sees to it (`Chat.Reducer`), but a profile may have come from elsewhere, so this is told of a user
  whose first profile was in order.
* `App.saved_at_render`: what is written was on the screen at some moment of the run.

## Limits

One tab is open at a time.  The identity and the profile are written by the app alone: `write`
excludes their keys, and neither `forget_stored` nor the import of a backup is a step.  What comes
back of the name is what was in the input field, unless that was empty: then it is what older
versions left under `iroh.name`, or "Guest".
-/

namespace IrohWebRtc

open Bytes Runs Utf8

/-! ## The app -/

/-- The tab of a user, with the storage of the browser. -/
structure App where
  tab : Tab
  store : ProfileStore
  /-- The dependencies with which the effect that saves has run last. -/
  deps : Option (String × ℕ × ℕ)

inductive AppOp where
  | tab (op : TabOp)
  /-- The chat room is rendered, with this name in its input field. -/
  | render (access : StorageAccess) (name : String) (iv : FixedBytes 12)
  /-- A call that saves has encrypted. -/
  | finish (n : ℕ) (access : StorageAccess)
  /-- Something else is written to the storage, or removed from it. -/
  | write (key : String) (value : Option String)
  /-- The page is loaded again, and the user signs on. -/
  | signOn (access : StorageAccess)

/-- What the effect that saves depends on: the name, and how many rooms and bootstrap peers there
are. -/
def saveDeps (name : String) (rooms : List RoomState) : String × ℕ × ℕ :=
  (name, rooms.length, (rooms.map fun r => r.bootstrapPeers.length).sum)

namespace App

variable [JoinLibraries] [TopicText] [JsonReader] [PassphraseLibraries] [SendLibraries]

/-- A new user has stored an identity, and the node is spawned. -/
def signUp (keyBytes : FixedBytes 32) (access : StorageAccess) (storage : LocalStorage)
    (pending : Option String) : App where
  tab := .start keyBytes
    (restoredState access storage pending (loadProfile access storage keyBytes))
  store := ⟨storage, [], []⟩
  deps := none

/-- The effect of `chat_room.rs` that saves: it runs when its dependencies have changed, and saves
in a session that has a stored identity. -/
def render (app : App) (access : StorageAccess) (name : String) (iv : FixedBytes 12) : Option App :=
  let rooms := app.tab.app.rooms
  if app.deps = some (saveDeps name rooms) then some app
  else
    let persistent := (loadStored access app.store.storage).isSome
    if persistent then
      (app.store.step app.tab.secretKey (.save ⟨name, rooms, iv⟩)).map fun store =>
        { app with store := store, deps := some (saveDeps name rooms) }
    else some { app with deps := some (saveDeps name rooms) }

/-- The page is loaded again: the calls under way are gone, and the user signs on. -/
def signOnAgain (app : App) (passphrase : String) (access : StorageAccess) : Option App :=
  match signOn access app.store.storage passphrase with
  | some (.ok (keyBytes, state)) =>
    some { tab := .start keyBytes state, store := { app.store with saving := [] }, deps := none }
  | _ => none

def step (passphrase : String) (app : App) : AppOp → Option App
  | .tab op => (app.tab.step op).map fun tab => { app with tab := tab }
  | .render access name iv => app.render access name iv
  | .finish n access =>
    (app.store.step app.tab.secretKey (.finish n access)).map fun store =>
      { app with store := store }
  | .write key value =>
    (app.store.step app.tab.secretKey (.write key value)).map fun store =>
      { app with store := store }
  | .signOn access => app.signOnAgain passphrase access

end App

/-! ## Rooms in order -/

/-- The rooms have different topics, and the lists of each are as they should be. -/
structure RoomsInOrder (rooms : List RoomState) : Prop where
  topics : (rooms.map RoomState.topicId).Nodup
  rooms : ∀ r ∈ rooms, r.IsWellFormed

/-- What a restored room keeps. -/
theorem RoomState.isWellFormed_restored {r : RoomState} (h : r.IsWellFormed) :
    r.restored.IsWellFormed :=
  ⟨List.nodup_nil, h.bootstrapPeers, h.length_bootstrapPeers⟩

theorem RoomsInOrder.restored {rooms : List RoomState} (h : RoomsInOrder rooms) :
    RoomsInOrder (rooms.map RoomState.restored) := by
  refine ⟨?_, fun r hr => ?_⟩
  · have htopics : (rooms.map RoomState.restored).map RoomState.topicId =
        rooms.map RoomState.topicId := by
      rw [List.map_map]
      rfl
    rw [htopics]
    exact h.topics
  · obtain ⟨r', hr', rfl⟩ := List.mem_map.mp hr
    exact RoomState.isWellFormed_restored (h.rooms r' hr')

/-- An action keeps the rooms in order, if it brings no state and no room that is not. -/
theorem RoomsInOrder.reduce {s : AppState} {a : Action} (h : RoomsInOrder s.rooms)
    (hinitial : ∀ state, a ≠ .setInitial state)
    (hadd : ∀ room, a = .addRoom room → room.IsWellFormed ∧ room.leftSigners = ∅) :
    RoomsInOrder (s.reduce a).rooms := by
  -- which room is shown has no bearing on what there is
  let s' : AppState := { s with activeTopic := none }
  have hwell : s'.IsWellFormed :=
    ⟨h.topics, fun _ htopic => absurd htopic (Option.some_ne_none _).symm, h.rooms⟩
  have hrooms : (s.reduce a).rooms = (s'.reduce a).rooms := by cases a <;> rfl
  have hallowed : a.Allowed s' → RoomsInOrder (s.reduce a).rooms := by
    intro hallowed
    obtain ⟨htopics, -, hlists⟩ := AppState.isWellFormed_reduce hwell hallowed
    rw [hrooms]
    exact ⟨htopics, hlists⟩
  cases a with
  | setInitial state => exact absurd rfl (hinitial state)
  | setActive topic => exact h
  | addRoom room => exact hallowed (hadd room rfl)
  | _ => exact hallowed trivial

section Restored

variable [JoinLibraries] [TopicText] {access : StorageAccess} {storage : LocalStorage}
  {pending : Option String} {profile : Profile}

/-- A profile with rooms in order restores an initial state. -/
theorem isInitial_restoredState (h : RoomsInOrder profile.intoRooms.2) :
    (restoredState access storage pending profile).IsInitial := by
  refine ⟨⟨h.topics, fun topic htopic => ?_, h.rooms⟩, fun r hr => (mem_restoredState hr).2.2⟩
  obtain ⟨r, hhead, rfl⟩ := Option.map_eq_some_iff.mp htopic
  exact ⟨r, List.mem_of_head? hhead, rfl⟩

end Restored

/-! ## What a step does -/

namespace App

variable [JoinLibraries] [TopicText] [JsonReader] [PassphraseLibraries] [SendLibraries]
  {app next : App} {op : AppOp} {passphrase : String}

/-- A step is one of the tab; or one that leaves the tab as it is, and saves nothing but what the
tab shows; or the user signs on again. -/
theorem step_cases (h : app.step passphrase op = some next) :
    (∃ tabOp, op = .tab tabOp ∧ app.tab.step tabOp = some next.tab ∧ next.store = app.store) ∨
    (next.tab = app.tab ∧ (next.store = app.store ∨
      ∃ storeOp, app.store.step app.tab.secretKey storeOp = some next.store ∧
        ∀ task, storeOp = .save task →
          task.rooms = app.tab.app.rooms ∧ ∃ access, op = .render access task.name task.iv)) ∨
    ∃ access keyBytes state, op = .signOn access ∧
      signOn access app.store.storage passphrase = some (.ok (keyBytes, state)) ∧
      next.tab = .start keyBytes state ∧ next.store = { app.store with saving := [] } := by
  cases op with
  | tab tabOp =>
    obtain ⟨tab, htab, rfl⟩ := Option.map_eq_some_iff.mp h
    exact Or.inl ⟨tabOp, rfl, htab, rfl⟩
  | render access name iv =>
    simp only [step, render] at h
    split_ifs at h
    · obtain rfl := Option.some.inj h
      exact Or.inr (Or.inl ⟨rfl, Or.inl rfl⟩)
    · obtain ⟨store, hstore, rfl⟩ := Option.map_eq_some_iff.mp h
      refine Or.inr (Or.inl ⟨rfl, Or.inr ⟨_, hstore, fun task htask => ?_⟩⟩)
      obtain rfl := ProfileOp.save.inj htask
      exact ⟨rfl, access, rfl⟩
    · obtain rfl := Option.some.inj h
      exact Or.inr (Or.inl ⟨rfl, Or.inl rfl⟩)
  | finish n access =>
    obtain ⟨store, hstore, rfl⟩ := Option.map_eq_some_iff.mp h
    exact Or.inr (Or.inl ⟨rfl, Or.inr ⟨_, hstore, fun task htask => by cases htask⟩⟩)
  | write key value =>
    obtain ⟨store, hstore, rfl⟩ := Option.map_eq_some_iff.mp h
    exact Or.inr (Or.inl ⟨rfl, Or.inr ⟨_, hstore, fun task htask => by cases htask⟩⟩)
  | signOn access =>
    simp only [step, signOnAgain] at h
    split at h
    · rename_i keyBytes state hsignOn
      obtain rfl := Option.some.inj h
      exact Or.inr (Or.inr ⟨access, keyBytes, state, rfl, hsignOn, rfl, rfl⟩)
    · cases h

omit [JoinLibraries] [TopicText] [JsonReader] [PassphraseLibraries] [SendLibraries] in
/-- The call is under way, or has written. -/
def Saves (app : App) (task : SaveTask) : Prop :=
  task ∈ app.store.saving ∨ task ∈ app.store.written

/-- A call that saves has just begun, with what the tab shows, or had begun before. -/
theorem saves_of_step (h : app.step passphrase op = some next) {task : SaveTask}
    (hsaves : next.Saves task) :
    app.Saves task ∨
      task.rooms = app.tab.app.rooms ∧ ∃ access, op = .render access task.name task.iv := by
  rcases step_cases h with ⟨tabOp, -, -, hstore⟩ | ⟨-, hstore | ⟨storeOp, hstore, hsave⟩⟩ |
    ⟨access, keyBytes, state, -, -, -, hstore⟩
  · rw [Saves, hstore] at hsaves
    exact Or.inl hsaves
  · rw [Saves, hstore] at hsaves
    exact Or.inl hsaves
  · exact (ProfileStore.mem_of_step hstore hsaves).imp_right (hsave task)
  · rw [Saves, hstore] at hsaves
    exact Or.inl (hsaves.imp_left fun hmem => absurd hmem List.not_mem_nil)

/-- **What is saved was on the screen.** -/
theorem saved_at_render {ops : List AppOp} {task : SaveTask} (hstart : ¬ app.Saves task)
    (hrun : Runs.run (step passphrase) app ops = some next) (hsaves : next.Saves task) :
    ∃ pre access post shown, ops = pre ++ .render access task.name task.iv :: post ∧
      Runs.run (step passphrase) app pre = some shown ∧ task.rooms = shown.tab.app.rooms := by
  obtain ⟨pre, op, post, shown, after, rfl, hshown, hstep, -, hnot, hyes⟩ :=
    Runs.exists_step_of_run (P := fun app : App => app.Saves task) hstart hsaves hrun
  rcases saves_of_step hstep hyes with hold | ⟨hrooms, access, rfl⟩
  · exact absurd hold hnot
  · exact ⟨pre, access, post, shown, rfl, hshown, hrooms⟩

/-! ## What an app keeps -/

/-- The rooms on the screen have a property, and so have the rooms of every call that saves. -/
structure Rooms (R : List RoomState → Prop) (app : App) : Prop where
  shown : R app.tab.app.rooms
  saved : ∀ task, app.Saves task → R task.rooms

/-- A property of the rooms is kept, when the steps of the tab keep it and the user signs on with
rooms that have it. -/
theorem Rooms.step {R : List RoomState → Prop} (hR : app.Rooms R)
    (h : app.step passphrase op = some next)
    (htab : ∀ tabOp tab, app.tab.step tabOp = some tab → R tab.app.rooms)
    (hsignOn : ∀ access keyBytes state, op = .signOn access →
      signOn access app.store.storage passphrase = some (.ok (keyBytes, state)) → R state.rooms) :
    next.Rooms R := by
  refine ⟨?_, fun task hsaves => ?_⟩
  · rcases step_cases h with ⟨tabOp, -, hstep, -⟩ | ⟨hsame, -⟩ |
      ⟨access, keyBytes, state, hop, hstate, hstart, -⟩
    · exact htab tabOp _ hstep
    · rw [hsame]
      exact hR.shown
    · rw [hstart]
      exact hsignOn access keyBytes state hop hstate
  · rcases saves_of_step h hsaves with hold | ⟨hrooms, -⟩
    · exact hR.saved task hold
    · rw [hrooms]
      exact hR.shown

/-- Every room goes under the topic of its secret. -/
def HaveTopics (rooms : List RoomState) : Prop := ∀ r ∈ rooms, r.topicId = topicOf r.roomSecret

/-- **What an app keeps.**  The tab goes on with the key of the identity, the storage has the
identity and the last profile that was written, and the rooms go under their topics. -/
structure Kept (keyBytes : FixedBytes 32) (storage : LocalStorage) (app : App) : Prop where
  secretKey : app.tab.secretKey = keyBytes
  tab : app.tab.Keeps
  store : app.store.Kept keyBytes storage
  topics : app.Rooms HaveTopics

omit [PassphraseLibraries] [JsonReader] in
/-- The steps of a tab keep the topics. -/
theorem haveTopics_of_step {tab tab' : Tab} {tabOp : TabOp} (hkeeps : tab.Keeps)
    (hstep : tab.step tabOp = some tab') (h : HaveTopics tab.app.rooms) :
    HaveTopics tab'.app.rooms := by
  refine Tab.forall_mem_rooms_of_step hkeeps hstep h (fun _ _ _ _ _ _ => rfl) ?_
  intro a topic f r hchange hr
  rw [Action.topicId_of_change hchange, Action.roomSecret_of_change hchange]
  exact hr

omit [PassphraseLibraries] [JsonReader] in
/-- The steps of a tab keep its rooms in order. -/
theorem roomsInOrder_of_step {tab tab' : Tab} {tabOp : TabOp} (hkeeps : tab.Keeps)
    (hstep : tab.step tabOp = some tab') (h : RoomsInOrder tab.app.rooms) :
    RoomsInOrder tab'.app.rooms := by
  rcases (Tab.stepsTo hkeeps hstep).app with happ | ⟨a, happ, hshows⟩
  · rw [happ]
    exact h
  · obtain ⟨hinitial, hnew⟩ := hshows.brings
    rw [happ]
    refine h.reduce hinitial fun room ha => ?_
    obtain ⟨roomSecret, roomName, message, mode, peers, hpeers, rfl⟩ := hnew room ha
    have hnodup : peers.Nodup := by
      match peers, hpeers with
      | [], _ => exact List.nodup_nil
      | [peer], _ => exact List.nodup_singleton peer
    exact ⟨⟨List.nodup_nil, hnodup, Nat.le_trans hpeers (by decide)⟩, rfl⟩

section Identity

variable [LawfulCipher] {keyBytes : FixedBytes 32} {salt : FixedBytes 16} {iv : FixedBytes 12}
  {enc saltBytes : List UInt8} {storage : LocalStorage} {access : StorageAccess}
  {pending : Option String}

omit [JoinLibraries] [TopicText] [JsonReader] [SendLibraries] [LawfulCipher] in
/-- Without a storage nobody signs on. -/
theorem localStorage_of_signOn [JoinLibraries] [TopicText] [JsonReader]
    {storage : LocalStorage} {result : Except String (FixedBytes 32 × AppState)}
    (h : signOn access storage passphrase = some result) : access.localStorage = .ok () := by
  cases haccess : access.localStorage with
  | error e =>
    rw [signOn, loadStored, haccess] at h
    cases h
  | ok => rfl

omit [PassphraseLibraries] [LawfulCipher] in
/-- An app that has just signed up. -/
theorem kept_signUp : (signUp keyBytes access storage pending).Kept keyBytes storage := by
  have htopics : HaveTopics (restoredState access storage pending
      (loadProfile access storage keyBytes)).rooms := fun r hr => (mem_restoredState hr).1
  refine ⟨rfl, Tab.keeps_start htopics, ⟨rfl, rfl, fun task h => (by cases h), fun _ => rfl⟩,
    htopics, fun task hsaves => ?_⟩
  rcases hsaves with hmem | hmem
  · cases hmem
  · cases hmem

/-- **Every step keeps what an app keeps.** -/
theorem Kept.step (hencrypt : encryptKey keyBytes passphrase salt iv = .ok (enc, saltBytes))
    (hidentity : storage storageEnc = some (base64Encode enc) ∧
      storage storageSalt = some (base64Encode saltBytes))
    (hkept : app.Kept keyBytes storage) (h : app.step passphrase op = some next) :
    next.Kept keyBytes storage := by
  have hagain : ∀ access key state, signOn access app.store.storage passphrase =
      some (.ok (key, state)) → key = keyBytes ∧ state = restoredState access app.store.storage none
        (loadProfile access app.store.storage keyBytes) := by
    intro access key state hstate
    rw [signOn_kept hencrypt hidentity hkept.store (localStorage_of_signOn hstate)] at hstate
    obtain ⟨rfl, rfl⟩ := Prod.mk.inj (Except.ok.inj (Option.some.inj hstate))
    exact ⟨rfl, rfl⟩
  have htopics : next.Rooms HaveTopics := by
    refine hkept.topics.step h (fun tabOp tab hstep => ?_) fun access key state _ hstate => ?_
    · exact haveTopics_of_step hkept.tab hstep hkept.topics.shown
    · obtain ⟨-, rfl⟩ := hagain access key state hstate
      exact fun r hr => (mem_restoredState hr).1
  rcases step_cases h with ⟨tabOp, -, hstep, hstore⟩ | ⟨hsame, hstore⟩ |
    ⟨access, key, state, -, hstate, hstart, hstore⟩
  · refine ⟨(Tab.stepsTo hkept.tab hstep).secretKey.trans hkept.secretKey, hkept.tab.step hstep, ?_,
      htopics⟩
    rw [hstore]
    exact hkept.store
  · refine ⟨hsame ▸ hkept.secretKey, hsame ▸ hkept.tab, ?_, htopics⟩
    rcases hstore with hstore | ⟨storeOp, hstore, -⟩
    · rw [hstore]
      exact hkept.store
    · rw [hkept.secretKey] at hstore
      exact hkept.store.step hstore
  · obtain ⟨rfl, rfl⟩ := hagain access key state hstate
    refine ⟨?_, ?_, ?_, htopics⟩
    · rw [hstart]
      rfl
    · rw [hstart]
      exact Tab.keeps_start fun r hr => (mem_restoredState hr).1
    · rw [hstore]
      exact ⟨hkept.store.enc, hkept.store.salt, hkept.store.profile, hkept.store.first⟩

omit [PassphraseLibraries] in
/-- A profile is loaded with its rooms in order, when the first one was, and those that were saved
since. -/
theorem Kept.inOrder_loaded (hkept : app.Kept keyBytes storage) (horder : app.Rooms RoomsInOrder)
    (hfirst : RoomsInOrder (loadProfile access storage keyBytes).intoRooms.2)
    (haccess : access.localStorage = .ok ()) :
    RoomsInOrder (loadProfile access app.store.storage keyBytes).intoRooms.2 := by
  obtain ⟨hlast, hnone⟩ := hkept.store.loadProfile haccess
  cases hwritten : app.store.written.getLast? with
  | none => rwa [hnone (List.getLast?_eq_none_iff.mp hwritten)]
  | some task =>
    have hsaves : app.Saves task := Or.inr (List.mem_of_getLast? hwritten)
    rw [hlast task hwritten, Profile.intoRooms_snapshot (hkept.topics.saved task hsaves)]
    exact (horder.saved task hsaves).restored

/-- **In every run** the app keeps what it keeps; and its rooms stay in order, if those of the first
profile were. -/
theorem kept_of_run {ops : List AppOp}
    (hencrypt : encryptKey keyBytes passphrase salt iv = .ok (enc, saltBytes))
    (hidentity : storage storageEnc = some (base64Encode enc) ∧
      storage storageSalt = some (base64Encode saltBytes))
    (hrun : Runs.run (App.step passphrase) (signUp keyBytes access storage pending) ops =
      some app) :
    app.Kept keyBytes storage ∧
      ((∀ access, RoomsInOrder (loadProfile access storage keyBytes).intoRooms.2) →
        app.Rooms RoomsInOrder) := by
  refine Runs.run_invariant
    (I := fun app => app.Kept keyBytes storage ∧ (_ → app.Rooms RoomsInOrder))
    (fun app op next hI hstep => ?_) ⟨kept_signUp, fun hfirst => ?_⟩ hrun
  · obtain ⟨hkept, horder⟩ := hI
    refine ⟨hkept.step hencrypt hidentity hstep, fun hfirst => ?_⟩
    refine (horder hfirst).step hstep
      (fun tabOp tab htab => roomsInOrder_of_step hkept.tab htab (horder hfirst).shown) ?_
    intro access' key state _ hstate
    have haccess := localStorage_of_signOn hstate
    rw [signOn_kept hencrypt hidentity hkept.store haccess] at hstate
    obtain ⟨-, rfl⟩ := Prod.mk.inj (Except.ok.inj (Option.some.inj hstate))
    exact hkept.inOrder_loaded (horder hfirst) (hfirst access') haccess
  · refine ⟨hfirst access, fun task hsaves => ?_⟩
    rcases hsaves with hmem | hmem
    · cases hmem
    · cases hmem

end Identity

end App

/-! ## Signing on -/

section SignOn

variable [JoinLibraries] [TopicText] [JsonReader] [PassphraseLibraries] [SendLibraries]

/-- **A user who returns.**  A new user's key was encrypted under a passphrase and stored, which the
browser let through.  Since then the user has run the app, in any number of sessions: profiles were
saved, by calls that finish in any order and fail in any way, and other things were written to the
storage.  If the browser has a storage now, then with the passphrase the user signs on with that
key, and with the profile that was written last.

This profile was on the screen at some moment: its rooms are all the rooms that the tab had then, in
their order, under their names and topics, with their secrets and the peers that were known of; what
had happened in them is not kept.  Its name is the one that was in the input field.  When that was
empty, the name is what is stored under `iroh.name`, where older versions wrote it, or "Guest".

As long as no call has written, the user signs on with the profile that was stored before.  In both
cases the reducer starts from an initial state, if the rooms of that first profile were in order:
those of every later one are. -/
theorem signOn_saved [LawfulCipher] {keyBytes : FixedBytes 32} {passphrase : String}
    {salt : FixedBytes 16} {iv : FixedBytes 12} {enc saltBytes : List UInt8}
    {access₀ access₁ access : StorageAccess} {storage₀ storage : LocalStorage}
    {pending : Option String} {ops : List AppOp} {app : App}
    (hencrypt : encryptKey keyBytes passphrase salt iv = .ok (enc, saltBytes))
    (hpersist : persist access₀ storage₀ enc saltBytes = (.ok (), storage))
    (hrun : Runs.run (App.step passphrase) (.signUp keyBytes access₁ storage pending) ops =
      some app)
    (haccess : access.localStorage = .ok ()) :
    ∃ state, signOn access app.store.storage passphrase = some (.ok (keyBytes, state)) ∧
      (∀ task, app.store.written.getLast? = some task →
        (∃ pre access post shown, ops = pre ++ .render access task.name task.iv :: post ∧
          Runs.run (App.step passphrase) (.signUp keyBytes access₁ storage pending) pre =
            some shown ∧ task.rooms = shown.tab.app.rooms) ∧
        state.rooms = task.rooms.map RoomState.restored ∧
        state.activeTopic = task.rooms.head?.map RoomState.topicId ∧
        state.name = if task.name = "" then (app.store.storage storageName).getD "Guest"
          else task.name) ∧
      (app.store.written = [] → state = restoredState access app.store.storage none
        (loadProfile access storage keyBytes)) ∧
      ((∀ access, RoomsInOrder (loadProfile access storage keyBytes).intoRooms.2) →
        state.IsInitial) := by
  have hidentity := stored_of_loadStored (loadStored_persist hpersist)
  obtain ⟨hkept, horder⟩ := App.kept_of_run hencrypt hidentity hrun
  obtain ⟨hlast, hnone⟩ := hkept.store.loadProfile haccess
  refine ⟨_, signOn_kept hencrypt hidentity hkept.store haccess, fun task hwritten => ?_,
    fun hwritten => ?_, fun hfirst => ?_⟩
  · have hsaves : app.Saves task := Or.inr (List.mem_of_getLast? hwritten)
    have hstart : ¬ (App.signUp keyBytes access₁ storage pending).Saves task := by
      rintro (hmem | hmem)
      · cases hmem
      · cases hmem
    have hname : storedName access app.store.storage =
        (app.store.storage storageName).getD "Guest" := by
      rw [storedName, haccess]
    rw [hlast task hwritten, restoredState_snapshot (hkept.topics.saved task hsaves), ← hname]
    exact ⟨App.saved_at_render hstart hrun hsaves, rfl, rfl, rfl⟩
  · rw [hnone hwritten]
  · exact isInitial_restoredState (hkept.inOrder_loaded (horder hfirst) (hfirst access) haccess)

end SignOn

/-! ## A user who returns twice -/

namespace Sample

/-- The key that PBKDF2 derives from the passphrase and the salt. -/
def cipherKey : FixedBytes 32 :=
  ⟨hexBytes "fbd18efd08fb942f9d13053ca2004832e97b15a3cfcaa9aa2647c8fbeeac8ee7", by decide⟩

/-- The secret key of the sender, under that key. -/
def sealedKey : List UInt8 :=
  hexBytes (
    "097ec1556b5ea957ca2e15a0b9e2c594a27683438de8bb7dfa56eb60e1ad39a0ba908efd9fb6a8364dde8d8d" ++
    "cd02c002")

/-- A profile with the sample room, under the secret key. -/
def profileText : String :=
  "\x7b\"version\":2,\"name\":\"alice\",\"rooms\":[\x7b\"secret_b64\":\"" ++
    "BwcHBwcHBwcHBwcHBwcHBwcHBwcHBwcHBwcHBwcHBwc\",\"name\":\"general\"," ++
    "\"hosting\":true,\"bootstrap_peers\":[]\x7d]\x7d"

def sealedProfile : List UInt8 :=
  hexBytes (
    "99d3f14da3ee165c8e556742a94fe7d53a232a39d1bf2eee4695ba6ade50cdb9bdf27040e9149f62c67328b7" ++
    "68e9415ea3106d158043bb9e0f72c6457337f89d686849bef576c4daf5afa1ecf2e95b97537262c5537b5e6c" ++
    "84b08a70263f671d295b496b869f0e841fcd404881149ae02e07845708ddcdf786b4d16b06a7625b68339d83" ++
    "3dd426eb5189c010d477831c78c9b3fd4e689df6059fb6a37b3d616546906254839fa9c8")

def sessionKnown : List Known :=
  [(cipherKey, .replicate 12 4, senderSecret.toList, sealedKey),
    (senderSecret, .replicate 12 5, utf8Bytes profileText, sealedProfile)]

theorem sessionKnown_well : KnownWell sessionKnown := by decide +kernel

end Sample

section Sample

open scoped Json
open Sample (carol carolHex cipherKey knownDecrypt knownDecrypt_knownEncrypt knownEncrypt
  length_knownEncrypt roomKeys sealedKey senderPublic senderSecret senderSig sessionKnown
  sessionKnown_well)

local instance : JoinLibraries where
  parsePublicKey s := if s = carolHex then some carol else none
  verify _ _ _ := false
  aesGcmDecrypt := knownDecrypt sessionKnown
  fromSlice _ := none
  hkdfExpand secret info :=
    if secret = .replicate 32 7 ∧ info = utf8Bytes "iroh-messenger/topic-id/v1" then
      roomKeys.topicId
    else roomKeys.aesKey
  keyParsingError _ := "decoding failed"

local instance : SendLibraries where
  publicKey _ := senderPublic
  sign _ _ := senderSig
  aesGcmEncrypt := knownEncrypt sessionKnown
  length_aesGcmEncrypt := length_knownEncrypt sessionKnown_well

local instance : LawfulCipher where
  decrypt_encrypt h := knownDecrypt_knownEncrypt sessionKnown_well h

local instance : PassphraseLibraries where
  deriveKey passphrase salt :=
    if passphrase = "correct horse" ∧ salt = .replicate 16 2 then .ok cipherKey
    else .ok (.replicate 32 0)

local instance : TopicText := ⟨fun topicId => String.ofList (toHex topicId.toList)⟩

namespace App

/-- A browser that lets everything through. -/
def openAccess : StorageAccess := ⟨.ok (), fun _ => true⟩

/-- The storage in which the key of the user has been stored. -/
def sampleStorage : LocalStorage :=
  (persist openAccess (fun _ => none) (1 :: (List.replicate 12 4 ++ sealedKey))
    (List.replicate 16 2)).2

/-- The user hosts a room, whose profile is saved, and sets a theme. -/
def sampleOps : List AppOp :=
  [.tab (.host "BwcHBwcHBwcHBwcHBwcHBwcHBwcHBwcHBwcHBwcHBwc" "general" "alice"),
    .render openAccess "alice" (.replicate 12 5), .finish 0 openAccess,
    .write "theme" (some "dark")]

theorem sample_written :
    ((Runs.run (step "correct horse") (signUp senderSecret openAccess sampleStorage (some "alice"))
      sampleOps).map fun app => app.store.written.getLast?.map fun task =>
        (task.name, task.rooms.map fun r => (r.roomSecret, r.name))) =
      some (some ("alice", [(.replicate 32 7, "general")])) := by
  decide +kernel

end App

open App

/-- The user comes back, and comes back once more. -/
theorem signOn_saved_sample :
    ∃ app state, Runs.run (App.step "correct horse")
        (.signUp senderSecret openAccess sampleStorage (some "alice"))
        (sampleOps ++ [.signOn openAccess]) = some app ∧
      signOn openAccess app.store.storage "correct horse" = some (.ok (senderSecret, state)) ∧
      state.name = "alice" ∧
      (state.rooms.map fun r => (r.roomSecret, r.name)) = [(.replicate 32 7, "general")] := by
  have hencrypt : encryptKey senderSecret "correct horse" (.replicate 16 2) (.replicate 12 4) =
      .ok (1 :: (List.replicate 12 4 ++ sealedKey), List.replicate 16 2) := by
    decide +kernel
  have hpersist : persist openAccess (fun _ => none) (1 :: (List.replicate 12 4 ++ sealedKey))
      (List.replicate 16 2) = (.ok (), sampleStorage) := rfl
  have haccess : openAccess.localStorage = .ok () := rfl
  obtain ⟨once, hrun, hwritten⟩ := Option.map_eq_some_iff.mp sample_written
  obtain ⟨task, hlast, htask⟩ := Option.map_eq_some_iff.mp hwritten
  obtain ⟨hname, hrooms⟩ := Prod.mk.inj htask
  obtain ⟨state, hsignOn, -⟩ := signOn_saved hencrypt hpersist hrun haccess
  obtain ⟨app, hagain, hstore⟩ : ∃ app, once.step "correct horse" (.signOn openAccess) = some app ∧
      app.store = { once.store with saving := [] } := by
    rw [App.step, signOnAgain, hsignOn]
    exact ⟨_, rfl, rfl⟩
  have htwice := Runs.run_concat.mpr ⟨once, hrun, hagain⟩
  obtain ⟨state', hsignOn', hsaved, -⟩ :=
    signOn_saved hencrypt hpersist htwice haccess
  have hlast' : app.store.written.getLast? = some task := by
    rw [hstore]
    exact hlast
  obtain ⟨-, hrooms', -, hname'⟩ := hsaved task hlast'
  refine ⟨app, state', htwice, hsignOn', ?_, ?_⟩
  · rw [hname', hname]
    rfl
  · rw [hrooms', List.map_map, ← hrooms]
    rfl

end Sample

end IrohWebRtc
