import IrohWebRtc.Chat.Tab

/-!
# Who said what, end to end

Any number of tabs, and a network that delivers to each receiver whatever it likes: any bytes, at
any time, to any room.  What it cannot do is to make a signature under the key of one of the tabs
that this tab has not made (`Unforged`); under all other keys it may sign what it wants.

A message goes a long way from the user who types it to the user who reads it, through the queues,
tasks and maps of two tabs, and every part has been looked at for itself.  Here they are put
together: each tab keeps an account of what its user did and what it signed for that
(`Tab.Keeps`), and what is shown in any tab is traced back to the account of the tab that is under
the key.

* `ChatNetwork.step`: a step of one of the tabs.
* `ChatNetwork.Valid`: what every step keeps.
* `chat_end_to_end`: a message that is shown under the key of a tab was sent by its user, to that
  room and with that text; and who is shown to have left has left.

## What is not vouched for

The name that is displayed with a message of somebody else.  It is a field of the message and not
a part of what is signed (`Chat.Wire`), so any member of the room can have a text that somebody
has sent displayed under another name (`Chat.Authenticity`).  Of the messages that a tab shows
under its own endpoint the name is right, since these do not come over the network.

Nor is it said that a message is shown once, or shown at all: the first is the matter of
`Chat.Replay`, the second that of `Chat.Delivery`.
-/

namespace IrohWebRtc

open Bytes Runs Utf8

variable {U : Type*}

/-- The tabs of all users. -/
abbrev ChatNetwork (U : Type*) := U → Tab

/-- What a tab starts from: the key, the storage and what was typed. -/
structure Session where
  secretKey : FixedBytes 32
  access : StorageAccess
  storage : LocalStorage
  pending : Option String
  profile : Profile

namespace ChatNetwork

section Network

variable [SendLibraries] [JoinLibraries] [TopicText]

/-- All nodes have been spawned, and the profiles restored. -/
def start (sessions : U → Session) : ChatNetwork U := fun u =>
  .start (sessions u).secretKey (restoredState (sessions u).access (sessions u).storage
    (sessions u).pending (sessions u).profile)

/-- A step of one of the tabs. -/
def step [DecidableEq U] (net : ChatNetwork U) (op : U × TabOp) : Option (ChatNetwork U) :=
  ((net op.1).step op.2).map (Function.update net op.1)

omit [JoinLibraries] [TopicText] in
/-- The key is that of a tab. -/
def IsTabKey (net : ChatNetwork U) (key : FixedBytes 32) : Prop := ∃ u, (net u).publicKey = key

omit [TopicText] in
/-- **Ed25519 is unforgeable.**  When the signature in a frame is good under the key of a tab, then
a tab with that key has signed the payload that is checked. -/
def Genuine (net : ChatNetwork U) (keys : RoomKeys) (content : List UInt8) : Prop :=
  ∀ wire signer signerPk nonce sig, keys.wireOf content = some wire →
    wire.credentials = some (signer, nonce, sig) → signerPkBytes signer = some signerPk →
      verifyMsg signer (wire.payload keys.topicId signerPk) sig = true → net.IsTabKey signerPk →
        ∃ u, ∃ m ∈ (net u).log.signed, m.key = signerPk ∧
          m.payload = wire.payload keys.topicId signerPk

omit [TopicText] in
/-- A frame that is delivered is genuine. -/
def Unforged (net : ChatNetwork U) : U × TabOp → Prop
  | (u, .receive topic (.received content) _) =>
    ∀ r, (net u).receivers.lookup topic = some r → net.Genuine r.task.keys content
  | _ => True

omit [TopicText] in
/-- The endpoint is a key; and if it is that of a tab, a user of such a tab has asked for a message
of this kind in this room. -/
def Vouched (net : ChatNetwork U) (endpoint topic : String) (kind : ChatBody → Prop) : Prop :=
  ∃ key, signerPkBytes endpoint = some key ∧
    (net.IsTabKey key → ∃ u body, (net u).publicKey = key ∧ (net u).log.Signs topic body ∧
      kind body)

omit [TopicText] in
def EventVouched (net : ChatNetwork U) : ChatGossipEvent → Prop
  | .chat topic fromEndpoint _ text =>
    net.Vouched fromEndpoint topic fun body => ∃ name, body = .chat name text
  | .identify topic endpoint name =>
    net.Vouched endpoint topic fun body =>
      ∃ name', body = .aboutMe name' ∧ name = truncateChars name' maxNameChars
  | .peerLeft topic endpoint => net.Vouched endpoint topic fun body => body = .leave
  | _ => True

omit [TopicText] in
/-- A message in a room of a tab comes from the room itself, from the user of the tab, or from
somebody else who has sent it. -/
def MessageVouched (net : ChatNetwork U) (u : U) (topic : String) (msg : ChatMsg) : Prop :=
  msg.isSystem = true ∨
    (msg.fromEndpoint = (net u).localEp ∧
      (net u).log.Signs topic (.chat msg.fromName msg.text)) ∨
    (msg.fromEndpoint ≠ (net u).localEp ∧
      net.Vouched msg.fromEndpoint topic fun body => ∃ name, body = .chat name msg.text)

/-- What a room of a tab shows. -/
structure RoomVouched (net : ChatNetwork U) (u : U) (r : RoomState) : Prop where
  topic : r.topicId = topicOf r.roomSecret
  messages : ∀ msg ∈ r.messages, net.MessageVouched u r.topicId msg
  left : ∀ e ∈ r.leftSigners, e ≠ (net u).localEp ∧
    net.Vouched e r.topicId fun body => body = .leave

/-- **What every step keeps.** -/
structure Valid (net : ChatNetwork U) : Prop where
  keeps : ∀ u, (net u).Keeps
  events : ∀ u, ∀ e ∈ (net u).protocol.events, net.EventVouched e
  rooms : ∀ u, ∀ r ∈ (net u).app.rooms, net.RoomVouched u r

end Network

/-! ## The accounts grow -/

section Grow

variable [SendLibraries] [JoinLibraries] {net net' : ChatNetwork U}

/-- Every tab has the same key, and an account that has grown. -/
def Extends (net net' : ChatNetwork U) : Prop :=
  ∀ u, (net' u).secretKey = (net u).secretKey ∧ (net u).log.Extends (net' u).log

omit [JoinLibraries] in
theorem Extends.publicKey (h : net.Extends net') (u : U) :
    (net' u).publicKey = (net u).publicKey := by
  rw [Tab.publicKey, Tab.publicKey, (h u).1]

omit [JoinLibraries] in
theorem Extends.localEp (h : net.Extends net') (u : U) : (net' u).localEp = (net u).localEp := by
  rw [Tab.localEp, Tab.localEp, (h u).1]

theorem Vouched.mono {endpoint topic : String} {kind : ChatBody → Prop}
    (hv : net.Vouched endpoint topic kind) (h : net.Extends net') :
    net'.Vouched endpoint topic kind := by
  obtain ⟨key, hkey, hv⟩ := hv
  refine ⟨key, hkey, ?_⟩
  rintro ⟨u, hu⟩
  obtain ⟨u', body, hu', hsigns, hkind⟩ := hv ⟨u, by rw [← h.publicKey, hu]⟩
  exact ⟨u', body, by rw [h.publicKey, hu'], hsigns.mono (h u').2, hkind⟩

theorem EventVouched.mono {e : ChatGossipEvent} (hv : net.EventVouched e) (h : net.Extends net') :
    net'.EventVouched e := by
  cases e with
  | chat topic fromEndpoint fromName text => exact Vouched.mono hv h
  | identify topic endpoint name => exact Vouched.mono hv h
  | peerLeft topic endpoint => exact Vouched.mono hv h
  | _ => trivial

theorem MessageVouched.mono {u : U} {topic : String} {msg : ChatMsg}
    (hv : net.MessageVouched u topic msg) (h : net.Extends net') :
    net'.MessageVouched u topic msg := by
  rcases hv with hsystem | ⟨hfrom, hsigns⟩ | ⟨hfrom, hv⟩
  · exact Or.inl hsystem
  · exact Or.inr (Or.inl ⟨by rw [h.localEp, hfrom], hsigns.mono (h u).2⟩)
  · exact Or.inr (Or.inr ⟨by rw [h.localEp]; exact hfrom, hv.mono h⟩)

theorem RoomVouched.mono [TopicText] {u : U} {r : RoomState} (hv : net.RoomVouched u r)
    (h : net.Extends net') : net'.RoomVouched u r where
  topic := hv.topic
  messages := fun msg hmsg => (hv.messages msg hmsg).mono h
  left := fun e he => ⟨by rw [h.localEp]; exact (hv.left e he).1, (hv.left e he).2.mono h⟩

end Grow

/-! ## What is emitted -/

section Emitted

variable [SendLibraries] [JoinLibraries] {net : ChatNetwork U} {keys : RoomKeys}

/-- What may have been signed: what the tabs have, and anything under other keys. -/
def MaySign (net : ChatNetwork U) (m : SignedMessage) : Prop :=
  (∃ u, m ∈ (net u).log.signed) ∨ ¬ net.IsTabKey m.key

/-- A genuine frame carries no forged signature. -/
theorem Genuine.unforged {content : List UInt8} (h : net.Genuine keys content) :
    RoomTask.Unforged net.MaySign keys [.received content] := by
  intro content' wire signer signerPk nonce sig hmem hwire hcredentials hkey hverify
  obtain rfl := RoomInput.received.inj (List.mem_singleton.mp hmem)
  by_cases htab : net.IsTabKey signerPk
  · obtain ⟨u, m, hm, hmkey, hpayload⟩ := h wire signer signerPk nonce sig hwire hcredentials hkey
      hverify htab
    exact ⟨m, Or.inl ⟨u, hm⟩, hmkey, hpayload⟩
  · -- whoever holds another key can have signed this message
    cases wire with
    | aboutMe signer' name nonce' sig' =>
      exact ⟨⟨signerPk, keys.topicId, nonce', .aboutMe name⟩, Or.inr htab, rfl, rfl⟩
    | chat signer' fromName text nonce' sig' =>
      exact ⟨⟨signerPk, keys.topicId, nonce', .chat fromName text⟩, Or.inr htab, rfl, rfl⟩
    | leave signer' nonce' sig' =>
      exact ⟨⟨signerPk, keys.topicId, nonce', .leave⟩, Or.inr htab, rfl, rfl⟩
    | sync => cases hcredentials
    | unknown => cases hcredentials

variable [TopicText]

/-- What was signed for a room is vouched for, when its signer is a tab. -/
theorem vouched_of_signedBody (hkeeps : ∀ u, (net u).Keeps) {endpoint : String} {body : ChatBody}
    {kind : ChatBody → Prop} (h : RoomTask.SignedBody net.MaySign keys endpoint body)
    (hkind : ∀ u, (net u).log.Signs (TopicText.toText keys.topicId) body → kind body) :
    net.Vouched endpoint (TopicText.toText keys.topicId) kind := by
  obtain ⟨m, hsigned, hkey, htopic, rfl⟩ := h
  refine ⟨m.key, hkey, fun htab => ?_⟩
  rcases hsigned with ⟨u, hm⟩ | hnot
  · obtain ⟨hmkey, hsigns⟩ := (hkeeps u).signed m hm
    rw [htopic] at hsigns
    exact ⟨u, m.body, hmkey.symm, hsigns, hkind u hsigns⟩
  · exact absurd htab hnot

/-- **An event of a receiver is vouched for**, when the frame it took is genuine. -/
theorem eventVouched_of_step (hkeeps : ∀ u, (net u).Keeps) {u : U} {topic : String} {r : Receiver}
    {input : RoomInput} {e : ChatGossipEvent} (hr : (net u).receivers.lookup topic = some r)
    (hgenuine : ∀ content, input = .received content → net.Genuine r.task.keys content)
    (hmem : e ∈ (r.task.step input).2) : net.EventVouched e := by
  obtain ⟨htask, htopic, -⟩ := (hkeeps u).receivers topic r hr
  rcases RoomTask.step_event hmem with
    ⟨content, wire, signer, signerPk, nonce, rfl, -, hwire, haccepts, hdisplay⟩ | hother
  · have hbody := haccepts.signedBody (hgenuine content rfl).unforged (List.mem_singleton_self _)
      hwire
    obtain ⟨sig, hcredentials, -⟩ := haccepts.signature
    rw [htask] at hdisplay
    cases wire with
    | aboutMe signer' name nonce' sig' =>
      obtain ⟨rfl, -, -⟩ := by simpa [ChatWireMessage.credentials] using hcredentials
      obtain rfl := Option.some.inj hdisplay
      rw [htopic]
      exact vouched_of_signedBody hkeeps hbody fun _ _ => ⟨name, rfl, rfl⟩
    | chat signer' fromName text nonce' sig' =>
      obtain ⟨rfl, -, -⟩ := by simpa [ChatWireMessage.credentials] using hcredentials
      obtain rfl := Option.some.inj hdisplay
      obtain ⟨fromName', hbody⟩ := hbody
      rw [htopic]
      refine vouched_of_signedBody hkeeps hbody fun u' hsigns => ⟨fromName', ?_⟩
      -- the texts that a tab signs have been cut before
      rw [(hkeeps u').sent _ hsigns]
    | leave signer' nonce' sig' =>
      obtain ⟨rfl, -, -⟩ := by simpa [ChatWireMessage.credentials] using hcredentials
      obtain rfl := Option.some.inj hdisplay
      rw [htopic]
      exact vouched_of_signedBody hkeeps hbody fun _ _ => rfl
    | sync => cases hcredentials
    | unknown => cases hcredentials
  · cases e with
    | chat topic fromEndpoint fromName text =>
      obtain ⟨_, _, ⟨_, hfalse, -⟩, -⟩ := hother (fun _ => False) r.task.keys
      exact hfalse.elim
    | identify topic endpoint name =>
      obtain ⟨_, ⟨_, hfalse, -⟩, -⟩ := hother (fun _ => False) r.task.keys
      exact hfalse.elim
    | peerLeft topic endpoint =>
      obtain ⟨_, hfalse, -⟩ := hother (fun _ => False) r.task.keys
      exact hfalse.elim
    | _ => trivial

end Emitted

/-! ## What is shown -/

section Shown

variable [SendLibraries] [JoinLibraries] [TopicText] {net : ChatNetwork U} {u : U}

/-- What an action adds to the rooms of a tab. -/
def ActionVouched (net : ChatNetwork U) (u : U) : Action → Prop
  | .setInitial state => ∀ r ∈ state.rooms, net.RoomVouched u r
  | .addRoom room => net.RoomVouched u room
  | .localSend topic msg => net.MessageVouched u topic msg
  | .recvChat topic fromEndpoint fromName text =>
    net.MessageVouched u topic ⟨fromEndpoint, fromName, text, false⟩
  | .peerLeft topic endpoint =>
    endpoint ≠ (net u).localEp ∧ net.Vouched endpoint topic fun body => body = .leave
  | _ => True

/-- A room with further messages and departures. -/
theorem RoomVouched.of_more {r r' : RoomState} (hr : net.RoomVouched u r)
    (htopic : r'.topicId = r.topicId) (hsecret : r'.roomSecret = r.roomSecret)
    (hmessages : ∀ msg ∈ r'.messages, msg ∈ r.messages ∨ net.MessageVouched u r.topicId msg)
    (hleft : ∀ e ∈ r'.leftSigners, e ∈ r.leftSigners ∨
      e ≠ (net u).localEp ∧ net.Vouched e r.topicId fun body => body = .leave) :
    net.RoomVouched u r' where
  topic := by rw [htopic, hsecret, hr.topic]
  messages := by
    rw [htopic]
    exact fun msg hmsg => (hmessages msg hmsg).elim (hr.messages msg) id
  left := by
    rw [htopic]
    exact fun e he => (hleft e he).elim (hr.left e) id

/-- A message is added to a room. -/
theorem RoomVouched.pushMessage {r : RoomState} (hr : net.RoomVouched u r) {msg : ChatMsg}
    (hmsg : net.MessageVouched u r.topicId msg) : net.RoomVouched u (r.pushMessage msg) := by
  refine hr.of_more rfl rfl (fun msg' hmsg' => ?_) fun _ => Or.inl
  refine (List.mem_append.mp hmsg').imp_right fun hmsg' => ?_
  rw [List.mem_singleton.mp hmsg']
  exact hmsg

/-- What the change of one room shows. -/
theorem roomVouched_of_change {a : Action} {topic : String} {f : RoomState → RoomState}
    {r : RoomState} (h : a.change = some (topic, f)) (ha : net.ActionVouched u a)
    (hr : net.RoomVouched u r) (htopic : r.topicId = topic) : net.RoomVouched u (f r) := by
  subst htopic
  have hsystem : ∀ text, net.MessageVouched u r.topicId (sysMsg text) := fun _ => Or.inl rfl
  cases a with
  | localSend topic msg =>
    obtain ⟨rfl, rfl⟩ := Prod.mk.inj (Option.some.inj h)
    exact hr.pushMessage ha
  | joined topic =>
    obtain ⟨rfl, rfl⟩ := Prod.mk.inj (Option.some.inj h)
    exact hr.of_more rfl rfl (fun _ => Or.inl) fun _ => Or.inl
  | neighborUp topic endpoint =>
    obtain ⟨rfl, rfl⟩ := Prod.mk.inj (Option.some.inj h)
    exact hr.of_more rfl rfl (fun _ => Or.inl) fun e he => Or.inl (Finset.mem_of_mem_erase he)
  | neighborDown topic endpoint =>
    obtain ⟨rfl, rfl⟩ := Prod.mk.inj (Option.some.inj h)
    have hdropped : net.RoomVouched u (r.dropParticipant endpoint) :=
      hr.of_more rfl rfl (fun _ => Or.inl) fun _ => Or.inl
    show net.RoomVouched u (if endpoint ∈ r.leftSigners then _ else _)
    split_ifs
    · exact hdropped
    · exact hdropped.pushMessage (hsystem _)
  | recvChat topic fromEndpoint fromName text =>
    obtain ⟨rfl, rfl⟩ := Prod.mk.inj (Option.some.inj h)
    exact (hr.pushMessage ha).of_more rfl rfl (fun _ => Or.inl) fun _ => Or.inl
  | system topic text =>
    obtain ⟨rfl, rfl⟩ := Prod.mk.inj (Option.some.inj h)
    exact hr.pushMessage (hsystem text)
  | identify topic endpoint name =>
    obtain ⟨rfl, rfl⟩ := Prod.mk.inj (Option.some.inj h)
    have hpeers : net.RoomVouched u
        { r with bootstrapPeers := addKnownPeer r.bootstrapPeers endpoint } :=
      hr.of_more rfl rfl (fun _ => Or.inl) fun _ => Or.inl
    simp only [RoomState.identify]
    split_ifs
    · exact hpeers
    · exact (hpeers.pushMessage (hsystem _)).of_more rfl rfl (fun _ => Or.inl) fun _ => Or.inl
  | peerLeft topic endpoint =>
    obtain ⟨rfl, rfl⟩ := Prod.mk.inj (Option.some.inj h)
    have hdropped : net.RoomVouched u (r.dropParticipant endpoint) :=
      hr.of_more rfl rfl (fun _ => Or.inl) fun _ => Or.inl
    refine (hdropped.pushMessage (hsystem _)).of_more rfl rfl (fun _ => Or.inl) fun e he => ?_
    rcases Finset.mem_insert.mp he with rfl | he
    · exact Or.inr ha
    · exact Or.inl he
  | setInitial _ => cases h
  | addRoom _ => cases h
  | removeRoom _ => cases h
  | setActive _ => cases h
  | setJoinError _ => cases h

/-- **What an action leaves to be shown is vouched for.** -/
theorem roomVouched_reduce {s : AppState} {a : Action} (hrooms : ∀ r ∈ s.rooms, net.RoomVouched u r)
    (ha : net.ActionVouched u a) : ∀ r ∈ (s.reduce a).rooms, net.RoomVouched u r := by
  refine AppState.forall_mem_rooms_reduce hrooms ?_ ?_ fun topic f r hchange htopic hr => ?_
  · rintro state rfl
    exact ha
  · rintro room rfl
    exact ha
  · exact roomVouched_of_change hchange ha hr htopic

end Shown

/-! ## Runs -/

section Runs

variable [SendLibraries] [JoinLibraries] [TopicText] {net net' : ChatNetwork U} {u : U}

/-- A queued event dispatches what it vouches for, to the rooms of another user. -/
theorem actionVouched_of_event {e : ChatGossipEvent} {a : Action} (he : net.EventVouched e)
    (haction : eventAction (net u).localEp e = some a) : net.ActionVouched u a := by
  cases e with
  | chat topic fromEndpoint fromName text =>
    rw [eventAction] at haction
    split_ifs at haction with hother
    obtain rfl := Option.some.inj haction
    exact Or.inr (Or.inr ⟨hother, he⟩)
  | peerLeft topic endpoint =>
    rw [eventAction] at haction
    split_ifs at haction with hother
    obtain rfl := Option.some.inj haction
    exact ⟨hother, he⟩
  | identify topic endpoint name =>
    rw [eventAction] at haction
    split_ifs at haction
    obtain rfl := Option.some.inj haction
    trivial
  | _ =>
    obtain rfl := Option.some.inj haction
    trivial

/-- What a step shows is vouched for. -/
theorem actionVouched_of_shows {a : Action} (hevents : ∀ e ∈ (net u).protocol.events,
      net.EventVouched e) (h : net.Extends net') (hshows : (net u).Shows (net' u) a) :
    net'.ActionVouched u a := by
  cases hshows with
  | event hmem haction =>
    rw [← h.localEp] at haction
    exact actionVouched_of_event ((hevents _ hmem).mono h) haction
  | addRoom roomSecret roomName message mode hpeers =>
    refine ⟨rfl, fun msg hmsg => Or.inl ?_, fun e he => absurd he (Finset.notMem_empty _)⟩
    rw [List.mem_singleton.mp hmsg]
    rfl
  | localSend hmem =>
    refine Or.inr (Or.inl ⟨?_, hmem⟩)
    rw [h.localEp]
    rfl
  | removeRoom hmem hafter => trivial
  | setActive topic => trivial
  | setJoinError error => trivial

variable [DecidableEq U]

/-- **Every step keeps what is vouched for**, when what it delivers is genuine. -/
theorem Valid.step (hv : net.Valid) {op : U × TabOp} (hunforged : net.Unforged op)
    (hstep : net.step op = some net') : net'.Valid := by
  obtain ⟨u, op⟩ := op
  obtain ⟨next, hnext, rfl⟩ := Option.map_eq_some_iff.mp hstep
  have hto := Tab.stepsTo (hv.keeps u) hnext
  have hextends : net.Extends (Function.update net u next) := by
    intro u'
    by_cases hu : u' = u
    · subst hu
      rw [Function.update_self]
      exact ⟨hto.secretKey, hto.log⟩
    · rw [Function.update_of_ne hu]
      exact ⟨rfl, .refl _⟩
  refine ⟨fun u' => ?_, fun u' e he => ?_, fun u' r hr => ?_⟩
  · by_cases hu : u' = u
    · subst hu
      rw [Function.update_self]
      exact (hv.keeps u').step hnext
    · rw [Function.update_of_ne hu]
      exact hv.keeps u'
  · by_cases hu : u' = u
    · subst hu
      rw [Function.update_self] at he
      rcases hto.events e he with hold | hplain | ⟨topic, input, nonce, r, rfl, hr, -, hmem⟩
      · exact (hv.events u' e hold).mono hextends
      · cases e with
        | chat _ _ _ _ => exact hplain.elim
        | identify _ _ _ => exact hplain.elim
        | peerLeft _ _ => exact hplain.elim
        | _ => trivial
      · refine (eventVouched_of_step hv.keeps hr (fun content hcontent => ?_) hmem).mono hextends
        subst hcontent
        exact hunforged r hr
    · rw [Function.update_of_ne hu] at he
      exact (hv.events u' e he).mono hextends
  · by_cases hu : u' = u
    · subst hu
      have hrooms : ∀ r ∈ (net u').app.rooms, RoomVouched (Function.update net u' next) u' r :=
        fun r hr => (hv.rooms u' r hr).mono hextends
      rw [Function.update_self] at hr
      rcases hto.app with happ | ⟨a, happ, hshows⟩
      · rw [happ] at hr
        exact hrooms r hr
      · rw [happ] at hr
        refine roomVouched_reduce hrooms ?_ r hr
        refine actionVouched_of_shows (hv.events u') hextends ?_
        rw [Function.update_self]
        exact hshows
    · rw [Function.update_of_ne hu] at hr
      exact (hv.rooms u' r hr).mono hextends

omit [DecidableEq U] in
theorem valid_start (sessions : U → Session) : (start sessions).Valid := by
  refine ⟨fun u => Tab.keeps_start fun r hr => (mem_restoredState hr).1,
    fun u e he => absurd he List.not_mem_nil, fun u r hr => ?_⟩
  obtain ⟨htopic, hmessages, hleft⟩ := mem_restoredState hr
  refine ⟨htopic, fun msg hmsg => ?_, fun e he => ?_⟩
  · rw [hmessages] at hmsg
    exact absurd hmsg List.not_mem_nil
  · rw [hleft] at he
    exact absurd he (Finset.notMem_empty _)

/-- **Who said what, end to end.**  Let any number of tabs run, each with any commands of its user,
and let the network deliver anything to them that carries no signature forged under the key of a
tab.  Then every message that a room of a tab shows is one of the room itself; or one that its user
has sent to this room, under this name; or one under the key of somebody else, and if this is the
key of a tab, then its user has sent this text to this room.  Who is noted to have left a room, if
it is the key of a tab, has left this room.

Of the messages of somebody else this is about the text alone.  The name beside it is not signed,
and may be any name. -/
theorem chat_end_to_end (sessions : U → Session) {ops : List (U × TabOp)}
    (hunforged : Runs.Guarded step Unforged (start sessions) ops)
    (hrun : Runs.run step (start sessions) ops = some net) (u : U) :
    ∀ r ∈ (net u).app.rooms, net.RoomVouched u r :=
  (Runs.run_invariant_of_guarded (fun _ _ _ hv hop hstep => Valid.step hv hop hstep)
    (valid_start sessions) hunforged hrun).rooms u

end Runs

end ChatNetwork

/-! ## Two tabs

The sender and a second user meet in the sample room, and the sender says `hi`. -/

namespace PairSample

open Sample (hexBytes hiNonce knownDecrypt knownEncrypt length_knownEncrypt roomKeys
  senderCiphertext senderIv senderPublic senderSecret senderSig senderWire)

def receiverSecret : FixedBytes 32 := .replicate 32 8

def receiverPublic : FixedBytes 32 :=
  ⟨hexBytes "1398f62c6d1a457c51ba6a4b5f3dbd2f69fca93216218dc8997e416bd17d93ca", by decide⟩

def senderHex : String := String.ofList (toHex senderPublic.toList)

def receiverHex : String := String.ofList (toHex receiverPublic.toList)

/-- The message of the sender, and its ciphertext. -/
def roomKnown : List Sample.Known :=
  [(roomKeys.aesKey, senderIv, senderWire.toJson.toBytes, senderCiphertext)]

set_option maxRecDepth 20000 in
theorem roomKnown_well : Sample.KnownWell roomKnown := by decide +kernel

scoped instance : JoinLibraries where
  parsePublicKey s :=
    if s = senderHex then some senderPublic
    else if s = receiverHex then some receiverPublic
    else none
  verify pk msg sig :=
    pk = senderPublic && msg = chatPayload roomKeys.topicId senderPublic hiNonce "hi" &&
      sig = senderSig
  aesGcmDecrypt := knownDecrypt roomKnown
  fromSlice bs := if bs = senderWire.toJson.toBytes then some senderWire else none
  hkdfExpand secret info :=
    if secret = .replicate 32 7 ∧ info = utf8Bytes "iroh-messenger/topic-id/v1" then
      roomKeys.topicId
    else roomKeys.aesKey
  keyParsingError _ := "decoding failed"

scoped instance : SendLibraries where
  publicKey secret := if secret = senderSecret then senderPublic else receiverPublic
  sign _ _ := senderSig
  aesGcmEncrypt := knownEncrypt roomKnown
  length_aesGcmEncrypt := length_knownEncrypt roomKnown_well

scoped instance : TopicText := ⟨fun topicId => String.ofList (toHex topicId.toList)⟩

def senderFrame : List UInt8 := 1 :: (senderIv.toList ++ senderCiphertext)

def sessions (u : Bool) : Session where
  secretKey := if u then senderSecret else receiverSecret
  access := ⟨.error "localStorage unavailable", fun _ => false⟩
  storage := fun _ => none
  pending := some (if u then "alice" else "bob")
  profile := .default

/-- A tab hosts the sample room, and its subscription is granted. -/
def enters (u : Bool) : List (Bool × TabOp) :=
  [(u, .host "BwcHBwcHBwcHBwcHBwcHBwcHBwcHBwcHBwcHBwcHBwc" "general"
      (if u then "alice" else "bob")), (u, .handler), (u, .command 0 (.replicate 16 2)),
    (u, .subscribed 0 (.ok ()) (.replicate 16 3))]

def roomTopic : String := topicOf (.replicate 32 7)

/-- Both enter, and the sender says `hi`. -/
def before : List (Bool × TabOp) :=
  enters false ++ enters true ++ [(true, .send "alice" "hi" roomTopic), (true, .command 0 hiNonce)]

/-- The message is delivered and shown. -/
def after : List (Bool × TabOp) :=
  [(false, .receive roomTopic (.received senderFrame) (.replicate 16 4)), (false, .nextEvent),
    (false, .nextEvent)]

end PairSample

namespace ChatNetwork

section Sample

open scoped PairSample
open PairSample

theorem sample_signed :
    ((Runs.run step (start sessions) before).map fun net => (net true).log.signed.getLast?) =
      some (some ⟨Sample.senderPublic, Sample.roomKeys.topicId, Sample.hiNonce,
        .chat "alice" "hi"⟩) := by
  decide +kernel

theorem sample_shown :
    ((Runs.run step (start sessions) (before ++ after)).map fun net =>
        (net false).app.rooms.map RoomState.messages) =
      some [[sysMsg "*** Hosting #general. Share the invite link.",
        ⟨senderHex, "alice", "hi", false⟩]] := by
  decide +kernel

/-- The only good signature under a key of the two tabs is the one of the message. -/
theorem genuine_sample {net : ChatNetwork Bool} {keys : RoomKeys} {content : List UInt8}
    (hsigned : ⟨Sample.senderPublic, Sample.roomKeys.topicId, Sample.hiNonce,
      .chat "alice" "hi"⟩ ∈ (net true).log.signed) : net.Genuine keys content := by
  rintro wire signer signerPk nonce sig - - hkey hverify -
  obtain ⟨sig', -, hgood⟩ := (verifyMsg_eq_true hkey).mp hverify
  simp only [ChatLibraries.verify, Bool.and_eq_true, decide_eq_true_eq] at hgood
  obtain ⟨⟨hsender, hpayload⟩, -⟩ := hgood
  exact ⟨true, _, hsigned, hsender.symm, hpayload.symm⟩

theorem guarded_sample : Runs.Guarded step Unforged (start sessions) (before ++ after) := by
  refine Runs.Guarded.append (Runs.Guarded.of_forall fun op hop net => ?_) fun net hrun => ?_
  · simp only [before, enters, List.mem_append, List.mem_cons, List.not_mem_nil, or_false] at hop
    rcases hop with ((rfl | rfl | rfl | rfl) | rfl | rfl | rfl | rfl) | rfl | rfl <;> trivial
  · have hsigned := sample_signed
    rw [hrun, Option.map_some] at hsigned
    have hmem := List.mem_of_getLast? (Option.some.inj hsigned)
    exact ⟨fun r _ => genuine_sample hmem, fun _ _ => ⟨trivial, fun _ _ => ⟨trivial,
      fun _ _ => trivial⟩⟩⟩

/-- The message of the sender is shown to the other user, who knows that the sender has sent it. -/
theorem chat_end_to_end_sample :
    ∃ net : ChatNetwork Bool,
      Runs.run step (start sessions) (before ++ after) = some net ∧
      (∃ r ∈ (net false).app.rooms, ⟨senderHex, "alice", "hi", false⟩ ∈ r.messages) ∧
      ∀ r ∈ (net false).app.rooms, net.RoomVouched false r := by
  have hshown := sample_shown
  obtain ⟨net, hrun, hmessages⟩ := Option.map_eq_some_iff.mp hshown
  refine ⟨net, hrun, ?_, chat_end_to_end sessions guarded_sample hrun false⟩
  obtain ⟨r, hr, hr'⟩ := List.mem_map.mp (hmessages.symm ▸ List.mem_singleton_self _)
  refine ⟨r, hr, ?_⟩
  rw [hr']
  exact List.mem_cons_of_mem _ (List.mem_singleton_self _)

end Sample

end ChatNetwork

end IrohWebRtc
