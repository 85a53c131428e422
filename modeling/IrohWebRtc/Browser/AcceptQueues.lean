import IrohWebRtc.Browser.ConnectionSteps
import IrohWebRtc.Browser.SessionRuns

/-!
# Inbound connections of the browser node

An inbound connection that is admitted for an acceptor stays in the table of connections, open,
until someone closes it.  Whoever is to do so gets it from `accept_next`: from the accept queue of
its ALPN, or, where a call waits already, from the channel of that call.

So an open connection should have somebody who can close it.  Two steps break this.  When an
acceptor is closed its queue is dropped, and the connections in it are left open in the table with
no one to take them.  And when a call is dropped between the moment at which the connection was
sent to its channel and the moment at which it would have received it, the connection goes with
the channel.

The node does not know what became of a connection that it has handed over, so a run is followed
with a note for each connection: that it was sent to a call, that the call received it, or that it
was lost with the call.

* `AcceptTrace`: a node with the connections it has admitted and what became of them.
* `Kept`: an open connection is in its queue or was handed over.
* `kept_iff`: it is so in every state of a run if and only if no acceptor is closed while an open
  connection is in its queue; and no handed over connection is lost if and only if moreover no
  call is dropped while an open connection is in its channel.
* `orphaned_forever`: a connection that is in no queue and was not handed over never will be.
-/

namespace IrohWebRtc

open Bytes Utf8

/-- What became of a connection that left the node for a caller of `accept_next`. -/
inductive Handover where
  /-- It is in the channel of a waiting call. -/
  | sent (waiter : ℕ)
  /-- A call has returned it. -/
  | received
  /-- It was in the channel of a call that was dropped. -/
  | lost
  deriving DecidableEq, Repr

namespace Handover

/-- The call that waits on channel `waiter` goes on. -/
def receive (waiter : ℕ) : Handover → Handover
  | .sent w => if w = waiter then .received else .sent w
  | handover => handover

/-- The call that waits on channel `waiter` is dropped. -/
def drop (waiter : ℕ) : Handover → Handover
  | .sent w => if w = waiter then .lost else .sent w
  | handover => handover

/-- What an operation on the node makes of a connection that was handed over. -/
def after {E : Type*} : NodeOp E → Handover → Handover
  | .dropWaiter waiter => drop waiter
  | _ => id

/-- Only the dropping of a call loses a connection. -/
theorem after_cases {E : Type*} (op : NodeOp E) (handover : Handover) :
    after op handover = handover ∨
      ∃ waiter, op = .dropWaiter waiter ∧ handover = .sent waiter ∧ after op handover = .lost := by
  cases op with
  | dropWaiter waiter =>
    cases handover with
    | sent w =>
      by_cases hw : w = waiter
      · exact Or.inr ⟨waiter, rfl, by rw [hw], if_pos hw⟩
      · exact Or.inl (if_neg hw)
    | received | lost => exact Or.inl rfl
  | _ => exact Or.inl rfl

end Handover

/-- A node, with the keys of the connections that were admitted for an acceptor, and what became of
those that were handed over. -/
structure AcceptTrace (E : Type*) where
  node : BrowserRuntimeNode E
  admitted : List BrowserConnectionKey
  handover : BrowserConnectionKey → Option Handover

/-- An operation on the node, or a call of `accept_next` that finds a connection in its channel. -/
inductive AcceptEvent (E : Type*) where
  | node (op : NodeOp E)
  | receives (waiter : ℕ)

namespace AcceptTrace

open BrowserRuntimeNode

section

variable {E : Type*} [DecidableEq E] [EndpointKey E]

/-- A new node has admitted nothing. -/
def new (node : BrowserRuntimeNode E) : AcceptTrace E := ⟨node, [], fun _ => none⟩

/-- An admission sends to a waiting call, `accept_next` returns what is queued, and a dropped call
loses what is in its channel. -/
def handoverAfter (t : AcceptTrace E) (op : NodeOp E) : BrowserConnectionKey → Option Handover :=
  match t.node.admission op with
  | some (accepted, some waiter) =>
    Function.update t.handover accepted.key (some (.sent waiter.id))
  | _ =>
    match t.node.taken op with
    | some key => Function.update t.handover key (some .received)
    | none => fun key => (t.handover key).map (Handover.after op)

def step [Blake3] (t : AcceptTrace E) : AcceptEvent E → Option (AcceptTrace E)
  | .receives waiter =>
    some { t with handover := fun key => (t.handover key).map (Handover.receive waiter) }
  | .node op =>
    (t.node.step op).map fun node =>
      { node := node
        admitted := t.admitted ++
          ((t.node.admission op).map fun admission => admission.1.key).toList
        handover := t.handoverAfter op }

/-- The connection waits in the queue of its ALPN. -/
def Queued (t : AcceptTrace E) (key : BrowserConnectionKey) (c : BrowserConnectionState E) : Prop :=
  ∃ accepted ∈ t.node.queueOf (fromUtf8Lossy c.irohConnection.alpn), accepted.key = key

/-- **No connection is orphaned.**  An admitted connection that is open is in its queue, or it was
handed over in a way that counts. -/
def Kept (counts : Handover → Prop) (t : AcceptTrace E) : Prop :=
  ∀ key ∈ t.admitted, ∀ c, t.node.connections.lookup key = some c → c.closed = false →
    t.Queued key c ∨ ∃ handover, t.handover key = some handover ∧ counts handover

/-- An acceptor is closed only when every connection in its queue is closed. -/
def ClosesEmptied (t : AcceptTrace E) (event : AcceptEvent E) : Prop :=
  ∀ acceptId registration, event = .node (.acceptClose acceptId) →
    (t.node.accepts.values.find? fun registration => registration.id = acceptId) =
      some registration →
    ∀ accepted ∈ registration.queue, ∀ c, t.node.connections.lookup accepted.key = some c →
      c.closed = true

/-- A call is dropped only when the connection in its channel, if there is one, is closed. -/
def DropsEmptied (t : AcceptTrace E) (event : AcceptEvent E) : Prop :=
  ∀ waiter, event = .node (.dropWaiter waiter) →
    ∀ key c, t.handover key = some (.sent waiter) → t.node.connections.lookup key = some c →
      c.closed = true

/-! ## The invariant -/

/-- What is queued was admitted, was not handed over, and is in the table under its ALPN; no
connection is queued twice. -/
structure InOrder (t : AcceptTrace E) : Prop where
  wellRegistered : t.node.WellRegistered
  fresh : ∀ key ∈ t.admitted, key.value < t.node.nextConnectionKey
  handed : ∀ key, t.handover key ≠ none → key ∈ t.admitted
  admitted : ∀ alpn, ∀ accepted ∈ t.node.queueOf alpn, accepted.key ∈ t.admitted
  waiting : ∀ alpn, ∀ accepted ∈ t.node.queueOf alpn, t.handover accepted.key = none
  recorded : ∀ alpn, ∀ accepted ∈ t.node.queueOf alpn,
    ∃ c, t.node.connections.lookup accepted.key = some c ∧
      fromUtf8Lossy c.irohConnection.alpn = alpn
  nodup : ∀ alpn, ((t.node.queueOf alpn).map fun accepted => accepted.key).Nodup

variable {t t' : AcceptTrace E}

omit [DecidableEq E] [EndpointKey E] in
/-- The key of the next connection is new. -/
theorem InOrder.ne_next (h : t.InOrder) {key : BrowserConnectionKey} (hkey : key ∈ t.admitted) :
    key ≠ ⟨t.node.nextConnectionKey⟩ := by
  rintro rfl
  exact absurd (h.fresh _ hkey) (lt_irrefl _)

/-- Unless an admission or `accept_next` hands a connection over, none is. -/
theorem handoverAfter_of_idle {op : NodeOp E}
    (hadmission : ∀ accepted waiter, t.node.admission op ≠ some (accepted, some waiter))
    (htaken : t.node.taken op = none) :
    t.handoverAfter op = fun key => (t.handover key).map (Handover.after op) := by
  unfold handoverAfter
  rw [htaken]
  cases h : t.node.admission op with
  | none => rfl
  | some admission =>
    obtain ⟨accepted, waiter⟩ := admission
    cases waiter with
    | none => rfl
    | some waiter => exact absurd h (hadmission accepted waiter)

theorem handoverAfter_of_admission {op : NodeOp E} {accepted : BrowserAcceptedConnection E}
    {waiter : AcceptWaiter} (h : t.node.admission op = some (accepted, some waiter)) :
    t.handoverAfter op = Function.update t.handover accepted.key (some (.sent waiter.id)) := by
  unfold handoverAfter
  rw [h]

theorem handoverAfter_of_taken {op : NodeOp E} {key : BrowserConnectionKey}
    (hadmission : t.node.admission op = none) (h : t.node.taken op = some key) :
    t.handoverAfter op = Function.update t.handover key (some .received) := by
  unfold handoverAfter
  rw [hadmission, h]

omit [DecidableEq E] [EndpointKey E] in
/-- The invariant is kept where the queues only lose connections, and the connections that were
admitted stay in the table. -/
theorem InOrder.of_sublist (h : t.InOrder) (hwf : t'.node.WellRegistered)
    (hadmitted : ∀ key ∈ t.admitted, key ∈ t'.admitted)
    (hfresh : ∀ key ∈ t'.admitted, key.value < t'.node.nextConnectionKey)
    (hhanded : ∀ key, t'.handover key ≠ none → key ∈ t'.admitted)
    (hqueues : ∀ alpn, (t'.node.queueOf alpn).Sublist (t.node.queueOf alpn))
    (hwaiting : ∀ alpn, ∀ accepted ∈ t'.node.queueOf alpn, t'.handover accepted.key = none)
    (hconnections : ∀ key ∈ t.admitted, ∀ c, t.node.connections.lookup key = some c →
      ∃ c', t'.node.connections.lookup key = some c' ∧ c'.irohConnection = c.irohConnection) :
    t'.InOrder := by
  refine ⟨hwf, hfresh, hhanded, fun alpn accepted hmem => ?_, hwaiting,
    fun alpn accepted hmem => ?_, fun alpn => ?_⟩
  · exact hadmitted _ (h.admitted alpn accepted ((hqueues alpn).subset hmem))
  · have hmem' := (hqueues alpn).subset hmem
    obtain ⟨c, hc, halpn⟩ := h.recorded alpn accepted hmem'
    obtain ⟨c', hc', hsame⟩ := hconnections _ (h.admitted alpn accepted hmem') c hc
    exact ⟨c', hc', by rw [hsame, halpn]⟩
  · exact ((hqueues alpn).map fun accepted => accepted.key).nodup (h.nodup alpn)

omit [DecidableEq E] [EndpointKey E] in
/-- The same, where nothing was admitted and nothing handed over. -/
theorem InOrder.of_idle (h : t.InOrder) (hwf : t'.node.WellRegistered)
    (hadmitted : t'.admitted = t.admitted)
    (hnext : t.node.nextConnectionKey ≤ t'.node.nextConnectionKey)
    (hhandover : ∀ key, t'.handover key = none ↔ t.handover key = none)
    (hqueues : ∀ alpn, (t'.node.queueOf alpn).Sublist (t.node.queueOf alpn))
    (hconnections : ∀ key ∈ t.admitted, ∀ c, t.node.connections.lookup key = some c →
      ∃ c', t'.node.connections.lookup key = some c' ∧ c'.irohConnection = c.irohConnection) :
    t'.InOrder := by
  refine h.of_sublist hwf (fun key hkey => hadmitted ▸ hkey) (fun key hkey => ?_)
    (fun key hkey => ?_) hqueues (fun alpn accepted hmem => ?_) hconnections
  · exact lt_of_lt_of_le (h.fresh key (hadmitted ▸ hkey)) hnext
  · rw [hadmitted]
    exact h.handed key fun hnone => hkey ((hhandover key).mpr hnone)
  · exact (hhandover _).mpr (h.waiting alpn accepted ((hqueues alpn).subset hmem))

omit [DecidableEq E] [EndpointKey E] in
/-- The keys that were admitted, once the next connection is admitted too. -/
theorem InOrder.fresh_concat (h : t.InOrder) {key : BrowserConnectionKey}
    (hkey : key = ⟨t.node.nextConnectionKey⟩) :
    ∀ key' ∈ t.admitted ++ [key], key'.value < t.node.nextConnectionKey + 1 := by
  intro key' hmem
  rcases List.mem_append.mp hmem with hmem | hmem
  · exact Nat.lt_succ_of_lt (h.fresh key' hmem)
  · rw [List.mem_singleton.mp hmem, hkey]
    exact Nat.lt_succ_self _

omit [DecidableEq E] [EndpointKey E] in
/-- The entry of the next connection is not that of one that was admitted. -/
theorem InOrder.lookup_insert_next (h : t.InOrder) (c : BrowserConnectionState E)
    {key : BrowserConnectionKey} (hkey : key ∈ t.admitted) :
    (t.node.connections.insert ⟨t.node.nextConnectionKey⟩ c).lookup key =
      t.node.connections.lookup key := by
  rw [Table.lookup_insert_eq, if_neg (h.ne_next hkey)]

omit [DecidableEq E] [EndpointKey E] in
/-- The next connection is sent to a call that waits. -/
theorem InOrder.of_handedOver (h : t.InOrder) {key : BrowserConnectionKey}
    {c : BrowserConnectionState E} {handover : Handover}
    (hkey : key = ⟨t.node.nextConnectionKey⟩) (hqueues : KeepsQueues t.node t'.node)
    (hconnections : t'.node.connections =
      t.node.connections.insert ⟨t.node.nextConnectionKey⟩ c)
    (hnext : t'.node.nextConnectionKey = t.node.nextConnectionKey + 1)
    (hadmitted : t'.admitted = t.admitted ++ [key])
    (hhandover : t'.handover = Function.update t.handover key (some handover)) : t'.InOrder := by
  refine h.of_sublist hqueues.wellRegistered (fun key' hmem => ?_) ?_ (fun key' hnone => ?_)
    (fun alpn => by rw [hqueues.queueOf]) (fun alpn accepted hmem => ?_)
    (fun key' hmem c' hc' => ?_)
  · rw [hadmitted]
    exact List.mem_append_left _ hmem
  · rw [hadmitted, hnext]
    exact h.fresh_concat hkey
  · rw [hadmitted]
    by_cases heq : key' = key
    · exact List.mem_append_right _ (List.mem_singleton.mpr heq)
    · rw [hhandover, Function.update_of_ne heq] at hnone
      exact List.mem_append_left _ (h.handed key' hnone)
  · rw [hqueues.queueOf] at hmem
    have hne : accepted.key ≠ key := hkey ▸ h.ne_next (h.admitted alpn accepted hmem)
    rw [hhandover, Function.update_of_ne hne]
    exact h.waiting alpn accepted hmem
  · exact ⟨c', by rw [hconnections, h.lookup_insert_next c hmem, hc'], rfl⟩

omit [DecidableEq E] [EndpointKey E] in
/-- The next connection is queued. -/
theorem InOrder.of_queued (h : t.InOrder) {accepted : BrowserAcceptedConnection E}
    {c : BrowserConnectionState E} (hkey : accepted.key = ⟨t.node.nextConnectionKey⟩)
    (halpn : accepted.alpn = fromUtf8Lossy c.irohConnection.alpn)
    (hqueues : Requeues t.node t'.node accepted.alpn
      (t.node.queueOf accepted.alpn ++ [accepted]))
    (hconnections : t'.node.connections =
      t.node.connections.insert ⟨t.node.nextConnectionKey⟩ c)
    (hnext : t'.node.nextConnectionKey = t.node.nextConnectionKey + 1)
    (hadmitted : t'.admitted = t.admitted ++ [accepted.key])
    (hhandover : ∀ key, t'.handover key = none ↔ t.handover key = none) : t'.InOrder := by
  have hmem : ∀ alpn, ∀ a ∈ t'.node.queueOf alpn,
      a ∈ t.node.queueOf alpn ∨ a = accepted ∧ alpn = accepted.alpn := by
    intro alpn a ha
    rw [hqueues.queueOf] at ha
    split_ifs at ha with heq
    · rcases List.mem_append.mp ha with ha | ha
      · exact Or.inl (heq ▸ ha)
      · exact Or.inr ⟨List.mem_singleton.mp ha, heq⟩
    · exact Or.inl ha
  have hnew : accepted.key ∉ t.admitted := fun hold => h.ne_next hold hkey
  refine ⟨hqueues.wellRegistered, ?_, fun key hnone => ?_, fun alpn a ha => ?_,
    fun alpn a ha => ?_, fun alpn a ha => ?_, fun alpn => ?_⟩
  · rw [hadmitted, hnext]
    exact h.fresh_concat hkey
  · rw [hadmitted]
    exact List.mem_append_left _ (h.handed key fun h' => hnone ((hhandover key).mpr h'))
  · rw [hadmitted]
    rcases hmem alpn a ha with ha | ⟨rfl, -⟩
    · exact List.mem_append_left _ (h.admitted alpn a ha)
    · exact List.mem_append_right _ (List.mem_singleton_self _)
  · refine (hhandover a.key).mpr ?_
    rcases hmem alpn a ha with ha | ⟨rfl, -⟩
    · exact h.waiting alpn a ha
    · by_contra hhanded
      exact hnew (h.handed a.key hhanded)
  · rcases hmem alpn a ha with ha | ⟨rfl, rfl⟩
    · obtain ⟨c', hc', halpn'⟩ := h.recorded alpn a ha
      exact ⟨c', by rw [hconnections, h.lookup_insert_next c (h.admitted alpn a ha), hc'], halpn'⟩
    · refine ⟨c, ?_, halpn.symm⟩
      rw [hconnections, hkey, AList.lookup_insert]
  · rw [hqueues.queueOf]
    split_ifs with heq
    · rw [List.map_append, List.map_singleton, List.nodup_append]
      refine ⟨h.nodup _, List.nodup_singleton _, fun key hold key' hkey' heq' => ?_⟩
      obtain ⟨a, ha, rfl⟩ := List.mem_map.mp hold
      rw [List.mem_singleton.mp hkey'] at heq'
      exact hnew (heq' ▸ h.admitted _ a ha)
    · exact h.nodup alpn

omit [DecidableEq E] [EndpointKey E] in
/-- Connections of one key in two queues would be in one queue twice. -/
theorem InOrder.ne_of_mem_tail (h : t.InOrder) {alpn alpn' : String}
    {accepted a : BrowserAcceptedConnection E} {queue : List (BrowserAcceptedConnection E)}
    (hqueue : t.node.queueOf alpn = accepted :: queue) (ha : a ∈ t.node.queueOf alpn')
    (htail : alpn' = alpn → a ∈ queue) : a.key ≠ accepted.key := by
  intro heq
  have hhead : accepted ∈ t.node.queueOf alpn := by
    rw [hqueue]
    exact List.mem_cons_self
  obtain ⟨c, hc, halpn⟩ := h.recorded alpn accepted hhead
  obtain ⟨c', hc', halpn'⟩ := h.recorded alpn' a ha
  rw [heq] at hc'
  obtain rfl := Option.some.inj (hc.symm.trans hc')
  obtain rfl : alpn' = alpn := halpn'.symm.trans halpn
  have hnodup := h.nodup alpn'
  rw [hqueue, List.map_cons, List.nodup_cons] at hnodup
  exact hnodup.1 (heq ▸ List.mem_map_of_mem (htail rfl))

omit [DecidableEq E] [EndpointKey E] in
/-- A connection is taken from its queue. -/
theorem InOrder.of_taken (h : t.InOrder) {alpn : String} {accepted : BrowserAcceptedConnection E}
    {queue : List (BrowserAcceptedConnection E)} {handover : Handover}
    (hqueue : t.node.queueOf alpn = accepted :: queue)
    (hqueues : Requeues t.node t'.node alpn queue)
    (hconnections : t'.node.connections = t.node.connections)
    (hnext : t'.node.nextConnectionKey = t.node.nextConnectionKey)
    (hadmitted : t'.admitted = t.admitted)
    (hhandover : t'.handover = Function.update t.handover accepted.key (some handover)) :
    t'.InOrder := by
  have hsublist : ∀ alpn', (t'.node.queueOf alpn').Sublist (t.node.queueOf alpn') := by
    intro alpn'
    rw [hqueues.queueOf]
    split_ifs with heq
    · rw [heq, hqueue]
      exact List.sublist_cons_self _ _
    · exact List.Sublist.refl _
  refine h.of_sublist hqueues.wellRegistered (fun key hmem => hadmitted ▸ hmem)
    (fun key hmem => ?_) (fun key hnone => ?_) hsublist (fun alpn' a hmem => ?_)
    (fun key _ c hc => ⟨c, hconnections ▸ hc, rfl⟩)
  · rw [hnext]
    exact h.fresh key (hadmitted ▸ hmem)
  · rw [hadmitted]
    by_cases heq : key = accepted.key
    · rw [heq]
      refine h.admitted alpn accepted ?_
      rw [hqueue]
      exact List.mem_cons_self
    · rw [hhandover, Function.update_of_ne heq] at hnone
      exact h.handed key hnone
  · have hne : a.key ≠ accepted.key := by
      refine h.ne_of_mem_tail hqueue ((hsublist alpn').subset hmem) fun heq => ?_
      rw [hqueues.queueOf, if_pos heq] at hmem
      exact hmem
    rw [hhandover, Function.update_of_ne hne]
    exact h.waiting alpn' a ((hsublist alpn').subset hmem)

variable [Blake3]

theorem step_node_eq_some {op : NodeOp E} (hstep : t.step (.node op) = some t') :
    t.node.step op = some t'.node ∧
      t'.admitted = t.admitted ++
        ((t.node.admission op).map fun admission => admission.1.key).toList ∧
      t'.handover = t.handoverAfter op := by
  obtain ⟨node, hnode, rfl⟩ := Option.map_eq_some_iff.mp hstep
  exact ⟨hnode, rfl, rfl⟩

/-- An operation that neither admits for an acceptor nor takes from a queue. -/
theorem step_idle {op : NodeOp E} (hstep : t.step (.node op) = some t')
    (hadmission : t.node.admission op = none) (htaken : t.node.taken op = none) :
    t'.admitted = t.admitted ∧
      ∀ key, t'.handover key = (t.handover key).map (Handover.after op) := by
  obtain ⟨-, hadmitted, hhandover⟩ := step_node_eq_some hstep
  rw [hadmission, Option.map_none, Option.toList_none, List.append_nil] at hadmitted
  rw [handoverAfter_of_idle (by simp [hadmission]) htaken] at hhandover
  exact ⟨hadmitted, congrFun hhandover⟩

theorem InOrder.step_node (h : t.InOrder) {op : NodeOp E}
    (hstep : t.step (.node op) = some t') : t'.InOrder := by
  obtain ⟨hnode, hadmitted, hhandover⟩ := step_node_eq_some hstep
  have hidle : t.node.admission op = none → t.node.taken op = none →
      t'.admitted = t.admitted ∧ ∀ key, t'.handover key = none ↔ t.handover key = none := by
    intro hadmission htaken
    obtain ⟨hadmitted, hhandover⟩ := step_idle hstep hadmission htaken
    refine ⟨hadmitted, fun key => ?_⟩
    rw [hhandover, Option.map_eq_none_iff]
  cases connectionEffect_of_step h.wellRegistered hnode with
  | idle hqueues hconnections hnext hadmission htaken =>
    obtain ⟨hadmitted, hhandover⟩ := hidle hadmission htaken
    exact h.of_idle hqueues.wellRegistered hadmitted hnext hhandover
      (fun alpn => by rw [hqueues.queueOf]) fun key _ c hc => ⟨c, hconnections ▸ hc, rfl⟩
  | recorded _ hqueues hconnections hnext hadmission htaken =>
    obtain ⟨hadmitted, hhandover⟩ := hidle hadmission htaken
    refine h.of_idle hqueues.wellRegistered hadmitted (by omega) hhandover
      (fun alpn => by rw [hqueues.queueOf]) fun key hkey c hc => ⟨c, ?_, rfl⟩
    rw [hconnections, h.lookup_insert_next _ hkey, hc]
  | handedOver _ hkey hqueues hconnections hnext hadmission =>
    rw [hadmission] at hadmitted
    rw [handoverAfter_of_admission hadmission] at hhandover
    exact h.of_handedOver hkey hqueues hconnections hnext hadmitted hhandover
  | queued _ hkey halpn hqueues hconnections hnext hadmission htaken =>
    rw [hadmission] at hadmitted
    rw [handoverAfter_of_idle (by simp [hadmission]) htaken] at hhandover
    refine h.of_queued hkey halpn hqueues hconnections hnext hadmitted fun key => ?_
    rw [hhandover, Option.map_eq_none_iff]
  | taken _ hqueue hqueues hconnections hnext hadmission htaken =>
    rw [hadmission, Option.map_none, Option.toList_none, List.append_nil] at hadmitted
    rw [handoverAfter_of_taken hadmission htaken] at hhandover
    exact h.of_taken hqueue hqueues hconnections hnext hadmitted hhandover
  | acceptorClosed hop _ _ hqueues hconnections hnext =>
    subst hop
    obtain ⟨hadmitted, hhandover⟩ := hidle rfl rfl
    refine h.of_idle hqueues.wellRegistered hadmitted hnext.ge hhandover (fun alpn => ?_)
      fun key _ c hc => ⟨c, hconnections ▸ hc, rfl⟩
    rw [hqueues.queueOf]
    split_ifs
    · exact List.nil_sublist _
    · exact List.Sublist.refl _
  | @connectionClosed connectionKey c _ hop hlookup hqueues hconnections hnext =>
    subst hop
    obtain ⟨hadmitted, hhandover⟩ := hidle rfl rfl
    refine h.of_idle hqueues.wellRegistered hadmitted hnext.ge hhandover
      (fun alpn => by rw [hqueues.queueOf]) (fun key _ c' hc' => ?_)
    rw [hconnections, Table.lookup_insert_eq]
    split_ifs with heq
    · rw [heq] at hc'
      obtain rfl := Option.some.inj (hlookup.symm.trans hc')
      exact ⟨_, rfl, rfl⟩
    · exact ⟨c', hc', rfl⟩
  | nodeClosed _ hop hwf hqueues hconnections hnext =>
    subst hop
    obtain ⟨hadmitted, hhandover⟩ := hidle rfl rfl
    refine h.of_idle hwf hadmitted hnext.ge hhandover (fun alpn => ?_) (fun key _ c hc => ?_)
    · rw [hqueues]
      exact List.nil_sublist _
    · rw [hconnections, Table.lookup_mapValues, hc]
      exact ⟨_, rfl, rfl⟩

theorem InOrder.step (h : t.InOrder) {event : AcceptEvent E} (hstep : t.step event = some t') :
    t'.InOrder := by
  cases event with
  | node op => exact h.step_node hstep
  | receives waiter =>
    obtain rfl := Option.some.inj hstep
    exact h.of_idle h.wellRegistered rfl le_rfl (fun key => Option.map_eq_none_iff)
      (fun alpn => List.Sublist.refl _) fun key _ c hc => ⟨c, hc, rfl⟩

/-! ## What a step keeps -/

variable {counts : Handover → Prop}

omit [DecidableEq E] [EndpointKey E] [Blake3] in
/-- An open connection that was handed over in a way that counts still is after an operation, unless
its call is dropped. -/
theorem counts_after {op : NodeOp E} (hdrops : ¬ counts .lost → t.DropsEmptied (.node op))
    {key : BrowserConnectionKey} {c : BrowserConnectionState E}
    (hc : t.node.connections.lookup key = some c) (hopen : c.closed = false)
    (h : ∃ handover, t.handover key = some handover ∧ counts handover) :
    ∃ handover, (t.handover key).map (Handover.after op) = some handover ∧ counts handover := by
  obtain ⟨handover, hhandover, hcounts⟩ := h
  refine ⟨handover.after op, by rw [hhandover]; rfl, ?_⟩
  rcases handover.after_cases op with hsame | ⟨waiter, rfl, rfl, hlost⟩
  · rw [hsame]
    exact hcounts
  · rw [hlost]
    by_contra hnot
    exact absurd (hopen.symm.trans (hdrops hnot waiter rfl key c hhandover hc)) (by simp)

/-- An operation that neither admits a connection nor hands one over keeps those connections that
were open and whose place in the queue it keeps. -/
theorem Kept.of_idle (hkept : t.Kept counts) {op : NodeOp E}
    (hdrops : ¬ counts .lost → t.DropsEmptied (.node op)) (hstep : t.step (.node op) = some t')
    (hadmission : t.node.admission op = none) (htaken : t.node.taken op = none)
    {key : BrowserConnectionKey} (hkey : key ∈ t'.admitted) {c : BrowserConnectionState E}
    (hc : key ∈ t.admitted → t.node.connections.lookup key = some c) (hopen : c.closed = false)
    (hqueued : t.Queued key c → t'.Queued key c) :
    t'.Queued key c ∨ ∃ handover, t'.handover key = some handover ∧ counts handover := by
  obtain ⟨hadmitted, hhandover⟩ := step_idle hstep hadmission htaken
  rw [hadmitted] at hkey
  rw [hhandover]
  exact (hkept key hkey c (hc hkey) hopen).imp hqueued (counts_after hdrops (hc hkey) hopen)

omit [DecidableEq E] [EndpointKey E] [Blake3] in
/-- A connection waits as long as its place in the queue is kept. -/
theorem Queued.of_requeues {alpn : String} {queue : List (BrowserAcceptedConnection E)}
    {key : BrowserConnectionKey} {c : BrowserConnectionState E}
    (hqueues : Requeues t.node t'.node alpn queue) (hqueued : t.Queued key c)
    (hkeep : ∀ accepted ∈ t.node.queueOf alpn, accepted.key = key → accepted ∈ queue) :
    t'.Queued key c := by
  obtain ⟨accepted, hmem, hkey⟩ := hqueued
  refine ⟨accepted, ?_, hkey⟩
  rw [hqueues.queueOf]
  split_ifs with hsame
  · exact hkeep accepted (hsame ▸ hmem) hkey
  · exact hmem

omit [DecidableEq E] [EndpointKey E] [Blake3] in
theorem Queued.of_keepsQueues {key : BrowserConnectionKey} {c : BrowserConnectionState E}
    (hqueues : KeepsQueues t.node t'.node) (hqueued : t.Queued key c) : t'.Queued key c := by
  obtain ⟨accepted, hmem, hkey⟩ := hqueued
  exact ⟨accepted, by rw [hqueues.queueOf]; exact hmem, hkey⟩

theorem Kept.step_node (hkept : t.Kept counts) (h : t.InOrder)
    (hsent : ∀ waiter, counts (.sent waiter)) (hreceived : counts .received) {op : NodeOp E}
    (hcloses : t.ClosesEmptied (.node op))
    (hdrops : ¬ counts .lost → t.DropsEmptied (.node op))
    (hstep : t.step (.node op) = some t') : t'.Kept counts := by
  obtain ⟨hnode, hadmitted, hhandover⟩ := step_node_eq_some hstep
  intro key hkey c hc hopen
  cases connectionEffect_of_step h.wellRegistered hnode with
  | idle hqueues hconnections hnext hadmission htaken =>
    rw [hconnections] at hc
    exact hkept.of_idle hdrops hstep hadmission htaken hkey (fun _ => hc) hopen
      (.of_keepsQueues hqueues)
  | recorded _ hqueues hconnections hnext hadmission htaken =>
    refine hkept.of_idle hdrops hstep hadmission htaken hkey (fun hkey => ?_) hopen
      (.of_keepsQueues hqueues)
    rw [hconnections, h.lookup_insert_next _ hkey] at hc
    exact hc
  | @handedOver accepted waiter _ _ _ _ hnew hqueues hconnections hnext hadmission htaken =>
    rw [hadmission] at hadmitted
    rw [handoverAfter_of_admission hadmission] at hhandover
    rw [hadmitted] at hkey
    rw [hhandover]
    rcases List.mem_append.mp hkey with hkey | hkey
    · have hne : key ≠ accepted.key := hnew ▸ h.ne_next hkey
      rw [hconnections, h.lookup_insert_next _ hkey] at hc
      rw [Function.update_of_ne hne]
      exact (hkept key hkey c hc hopen).imp_left (.of_keepsQueues hqueues)
    · obtain rfl : key = accepted.key := List.mem_singleton.mp hkey
      rw [Function.update_self]
      exact Or.inr ⟨_, rfl, hsent waiter.id⟩
  | @queued accepted connection _ _ _ hnew halpn hqueues hconnections hnext hadmission htaken =>
    rw [hadmission] at hadmitted
    rw [handoverAfter_of_idle (by simp [hadmission]) htaken] at hhandover
    rw [hadmitted] at hkey
    rw [hhandover]
    rcases List.mem_append.mp hkey with hkey | hkey
    · rw [hconnections, h.lookup_insert_next _ hkey] at hc
      refine (hkept key hkey c hc hopen).imp (fun hqueued => ?_) (counts_after hdrops hc hopen)
      exact hqueued.of_requeues hqueues fun a ha _ => List.mem_append_left _ ha
    · obtain rfl : key = accepted.key := List.mem_singleton.mp hkey
      rw [hconnections, hnew, AList.lookup_insert] at hc
      obtain rfl := Option.some.inj hc
      refine Or.inl ⟨accepted, ?_, rfl⟩
      rw [hqueues.queueOf, if_pos halpn.symm]
      exact List.mem_append_right _ (List.mem_singleton_self _)
  | @taken alpn accepted queue _ hqueue hqueues hconnections hnext hadmission htaken =>
    rw [hadmission, Option.map_none, Option.toList_none, List.append_nil] at hadmitted
    rw [handoverAfter_of_taken hadmission htaken] at hhandover
    rw [hadmitted] at hkey
    rw [hconnections] at hc
    rw [hhandover]
    by_cases heq : key = accepted.key
    · rw [heq, Function.update_self]
      exact Or.inr ⟨_, rfl, hreceived⟩
    · rw [Function.update_of_ne heq]
      refine (hkept key hkey c hc hopen).imp_left fun hqueued => ?_
      refine hqueued.of_requeues hqueues fun a ha hkey => ?_
      rw [hqueue] at ha
      exact (List.mem_cons.mp ha).resolve_left fun ha => heq (by rw [← hkey, ha])
  | @acceptorClosed acceptId registration hop hfind hqueue hqueues hconnections hnext =>
    subst hop
    rw [hconnections] at hc
    refine hkept.of_idle hdrops hstep rfl rfl hkey (fun _ => hc) hopen fun hqueued => ?_
    refine hqueued.of_requeues hqueues fun a ha hkey => ?_
    rw [hqueue] at ha
    rw [← hkey] at hc
    exact absurd (hopen.symm.trans (hcloses acceptId registration rfl hfind a ha c hc)) (by simp)
  | @connectionClosed connectionKey c' _ hop hlookup hqueues hconnections hnext =>
    subst hop
    rw [hconnections, Table.lookup_insert_eq] at hc
    split_ifs at hc with heq
    · obtain rfl := Option.some.inj hc
      exact absurd hopen (by simp)
    · exact hkept.of_idle hdrops hstep rfl rfl hkey (fun _ => hc) hopen (.of_keepsQueues hqueues)
  | nodeClosed _ hop hwf hqueues hconnections hnext =>
    rw [hconnections, Table.lookup_mapValues] at hc
    obtain ⟨c', -, rfl⟩ := Option.map_eq_some_iff.mp hc
    exact absurd hopen (by simp)

theorem Kept.step (hkept : t.Kept counts) (h : t.InOrder)
    (hsent : ∀ waiter, counts (.sent waiter)) (hreceived : counts .received)
    {event : AcceptEvent E} (hcloses : t.ClosesEmptied event)
    (hdrops : ¬ counts .lost → t.DropsEmptied event) (hstep : t.step event = some t') :
    t'.Kept counts := by
  cases event with
  | node op => exact hkept.step_node h hsent hreceived hcloses hdrops hstep
  | receives waiter =>
    obtain rfl := Option.some.inj hstep
    intro key hkey c hc hopen
    refine (hkept key hkey c hc hopen).imp id ?_
    rintro ⟨handover, hhandover, hcounts⟩
    refine ⟨handover.receive waiter, congrArg (Option.map _) hhandover, ?_⟩
    cases handover with
    | sent w =>
      rw [Handover.receive]
      split_ifs
      · exact hreceived
      · exact hsent w
    | received | lost => exact hcounts

/-- Closing an acceptor over an open connection orphans it. -/
theorem closesEmptied_of_kept (h : t.InOrder) {event : AcceptEvent E}
    (hstep : t.step event = some t') (hkept : t'.Kept counts) : t.ClosesEmptied event := by
  rintro acceptId registration rfl hfind accepted hmem c hc
  obtain ⟨hadmitted, hhandover⟩ := step_idle hstep rfl rfl
  obtain hnode : (t.node.acceptClose acceptId).2 = t'.node :=
    Option.some.inj (step_node_eq_some hstep).1
  obtain ⟨hqueues, hconnections, -⟩ := acceptClose_requeues h.wellRegistered hfind
  rw [hnode] at hqueues hconnections
  rw [← queueOf_of_lookup (lookup_of_find h.wellRegistered hfind)] at hmem
  by_contra hopen
  have hkey : accepted.key ∈ t'.admitted := by
    rw [hadmitted]
    exact h.admitted _ accepted hmem
  rcases hkept accepted.key hkey c (by rw [hconnections, hc]) (by simpa using hopen) with
    ⟨a, ha, -⟩ | ⟨handover, hhanded, -⟩
  · obtain ⟨c', hc', halpn⟩ := h.recorded _ accepted hmem
    obtain rfl := Option.some.inj (hc.symm.trans hc')
    rw [hqueues.queueOf, if_pos halpn] at ha
    exact absurd ha (by simp)
  · rw [hhandover, h.waiting _ accepted hmem] at hhanded
    exact absurd hhanded (by simp)

/-- Dropping a call with an open connection in its channel loses the connection. -/
theorem dropsEmptied_of_kept (h : t.InOrder) {event : AcceptEvent E}
    (hstep : t.step event = some t') (hlost : ¬ counts .lost) (hkept : t'.Kept counts) :
    t.DropsEmptied event := by
  rintro waiter rfl key c hsent hc
  obtain ⟨hadmitted, hhandover⟩ := step_idle hstep rfl rfl
  obtain hnode : t.node.dropWaiter waiter = t'.node :=
    Option.some.inj (step_node_eq_some hstep).1
  by_contra hopen
  have hkey : key ∈ t'.admitted := by
    rw [hadmitted]
    exact h.handed key (by simp [hsent])
  have hafter : t'.handover key = some .lost := by
    rw [hhandover, hsent]
    exact congrArg some (if_pos rfl)
  rcases hkept key hkey c (by rw [← hnode]; exact hc) (by simpa using hopen) with
    ⟨a, ha, rfl⟩ | ⟨handover, hhanded, hcounts⟩
  · have hnone := (h.step hstep).waiting _ a ha
    exact absurd (hafter.symm.trans hnone) (by simp)
  · obtain rfl := Option.some.inj (hafter.symm.trans hhanded)
    exact hlost hcounts

/-! ## Runs -/

omit [DecidableEq E] [Blake3] in
theorem inOrder_new {endpointId : E} {epoch : FixedBytes 16} {config : BrowserRuntimeNodeConfig}
    {browserProtocols : List String} {node : BrowserRuntimeNode E}
    (h : spawn endpointId epoch config browserProtocols = .ok node) : (new node).InOrder := by
  obtain ⟨hwf, hqueues, -⟩ := registered_of_spawn h
  have hempty : ∀ alpn accepted, accepted ∉ (new node).node.queueOf alpn := by
    intro alpn accepted hmem
    rw [show (new node).node.queueOf alpn = [] from hqueues alpn] at hmem
    exact absurd hmem (by simp)
  refine ⟨hwf, fun key hkey => absurd hkey (by simp [new]), fun key hkey => absurd rfl hkey,
    fun alpn accepted hmem => absurd hmem (hempty alpn accepted),
    fun alpn accepted hmem => absurd hmem (hempty alpn accepted),
    fun alpn accepted hmem => absurd hmem (hempty alpn accepted), fun alpn => ?_⟩
  rw [show (new node).node.queueOf alpn = [] from hqueues alpn]
  exact List.nodup_nil

/-- Every state of a run keeps its connections if and only if its steps meet the guard. -/
theorem kept_iff_guarded {endpointId : E} {epoch : FixedBytes 16}
    {config : BrowserRuntimeNodeConfig} {browserProtocols : List String}
    {node : BrowserRuntimeNode E}
    (hspawn : spawn endpointId epoch config browserProtocols = .ok node)
    {events : List (AcceptEvent E)} {final : AcceptTrace E}
    (hrun : Runs.run step (new node) events = some final)
    (hsent : ∀ waiter, counts (.sent waiter)) (hreceived : counts .received) :
    (∀ pre post t, events = pre ++ post → Runs.run step (new node) pre = some t →
        t.Kept counts) ↔
      Runs.Guarded step (fun t event => t.ClosesEmptied event ∧
        (¬ counts .lost → t.DropsEmptied event)) (new node) events := by
  have hnew : (new node).Kept counts := fun key hkey => absurd hkey (by simp [new])
  refine (Runs.forall_prefix_iff_guarded (I := InOrder)
    (fun t event t' h hstep => h.step hstep) (fun t event t' h hkept hstep => ?_)
    (inOrder_new hspawn) hrun).trans (and_iff_right hnew)
  constructor
  · intro hkept'
    exact ⟨closesEmptied_of_kept h hstep hkept',
      fun hlost => dropsEmptied_of_kept h hstep hlost hkept'⟩
  · rintro ⟨hcloses, hdrops⟩
    exact hkept.step h hsent hreceived hcloses hdrops hstep

/-- **Inbound connections.**  In every state of a run every connection that was admitted for an
acceptor and is open is in the queue of its ALPN or was handed to a call of `accept_next`, if and
only if no acceptor is closed while an open connection is in its queue.  Where a connection that was
lost with the call whose channel it was in does not count as handed over, the run must moreover drop
no call with an open connection in its channel. -/
theorem kept_iff {endpointId : E} {epoch : FixedBytes 16} {config : BrowserRuntimeNodeConfig}
    {browserProtocols : List String} {node : BrowserRuntimeNode E}
    (hspawn : spawn endpointId epoch config browserProtocols = .ok node)
    {events : List (AcceptEvent E)} {final : AcceptTrace E}
    (hrun : Runs.run step (new node) events = some final) :
    ((∀ pre post t, events = pre ++ post → Runs.run step (new node) pre = some t →
          t.Kept fun _ => True) ↔
        Runs.Guarded step ClosesEmptied (new node) events) ∧
      ((∀ pre post t, events = pre ++ post → Runs.run step (new node) pre = some t →
          t.Kept fun handover => handover ≠ .lost) ↔
        Runs.Guarded step (fun t event => t.ClosesEmptied event ∧ t.DropsEmptied event) (new node)
          events) := by
  constructor
  · rw [kept_iff_guarded hspawn hrun (fun _ => trivial) trivial]
    exact ⟨fun h => h.mono fun t event h => h.1,
      fun h => h.mono fun t event h => ⟨h, fun hlost => absurd trivial hlost⟩⟩
  · rw [kept_iff_guarded hspawn hrun (by simp) (by simp)]
    exact ⟨fun h => h.mono fun t event h => ⟨h.1, h.2 (not_not.mpr rfl)⟩,
      fun h => h.mono fun t event h => ⟨h.1, fun _ => h.2⟩⟩

/-- The connection was admitted, is in no queue, and was not handed over. -/
structure Orphaned (t : AcceptTrace E) (key : BrowserConnectionKey) : Prop where
  admitted : key ∈ t.admitted
  handover : t.handover key = none
  queueOf : ∀ alpn, ∀ accepted ∈ t.node.queueOf alpn, accepted.key ≠ key

omit [DecidableEq E] [EndpointKey E] [Blake3] in
/-- An admitted connection that is neither in the queue of its ALPN nor handed over is in no
queue. -/
theorem InOrder.orphaned (h : t.InOrder) {key : BrowserConnectionKey}
    {c : BrowserConnectionState E} (hadmitted : key ∈ t.admitted)
    (hhandover : t.handover key = none)
    (hc : t.node.connections.lookup key = some c) (hqueued : ¬ t.Queued key c) :
    t.Orphaned key := by
  refine ⟨hadmitted, hhandover, fun alpn accepted hmem heq => hqueued ⟨accepted, ?_, heq⟩⟩
  obtain ⟨c', hc', halpn⟩ := h.recorded alpn accepted hmem
  rw [heq] at hc'
  obtain rfl := Option.some.inj (hc.symm.trans hc')
  rw [halpn]
  exact hmem

theorem Orphaned.step_node {key : BrowserConnectionKey} (horphan : t.Orphaned key) (h : t.InOrder)
    {op : NodeOp E} (hstep : t.step (.node op) = some t') : t'.Orphaned key := by
  obtain ⟨hnode, hadmitted, hhandover⟩ := step_node_eq_some hstep
  have hkey : key ∈ t'.admitted := by
    rw [hadmitted]
    exact List.mem_append_left _ horphan.admitted
  have hidle : (∀ accepted waiter, t.node.admission op ≠ some (accepted, some waiter)) →
      t.node.taken op = none → t'.handover key = none := by
    intro hadmission htaken
    rw [hhandover, handoverAfter_of_idle hadmission htaken]
    exact Option.map_eq_none_iff.mpr horphan.handover
  cases connectionEffect_of_step h.wellRegistered hnode with
  | idle hqueues _ _ hadmission htaken | recorded _ hqueues _ _ hadmission htaken =>
    refine ⟨hkey, hidle (by simp [hadmission]) htaken, fun alpn accepted hmem => ?_⟩
    rw [hqueues.queueOf] at hmem
    exact horphan.queueOf alpn accepted hmem
  | handedOver _ hnew hqueues _ _ hadmission =>
    refine ⟨hkey, ?_, fun alpn accepted hmem => ?_⟩
    · rw [hhandover, handoverAfter_of_admission hadmission,
        Function.update_of_ne (hnew ▸ h.ne_next horphan.admitted), horphan.handover]
    · rw [hqueues.queueOf] at hmem
      exact horphan.queueOf alpn accepted hmem
  | queued _ hnew _ hqueues _ _ hadmission htaken =>
    refine ⟨hkey, hidle (by simp [hadmission]) htaken, fun alpn a hmem => ?_⟩
    rw [hqueues.queueOf] at hmem
    split_ifs at hmem
    · rcases List.mem_append.mp hmem with hmem | hmem
      · exact horphan.queueOf _ a hmem
      · rw [List.mem_singleton.mp hmem, hnew]
        exact (h.ne_next horphan.admitted).symm
    · exact horphan.queueOf alpn a hmem
  | @taken alpn accepted queue _ hqueue hqueues _ _ hadmission htaken =>
    have hmem : ∀ a ∈ accepted :: queue, a.key ≠ key := by
      intro a ha
      rw [← hqueue] at ha
      exact horphan.queueOf alpn a ha
    refine ⟨hkey, ?_, fun alpn' a ha => ?_⟩
    · rw [hhandover, handoverAfter_of_taken hadmission htaken,
        Function.update_of_ne (hmem accepted List.mem_cons_self).symm, horphan.handover]
    · rw [hqueues.queueOf] at ha
      split_ifs at ha
      · exact hmem a (List.mem_cons_of_mem _ ha)
      · exact horphan.queueOf alpn' a ha
  | acceptorClosed hop _ _ hqueues =>
    subst hop
    refine ⟨hkey, hidle (by simp [admission]) rfl, fun alpn a ha => ?_⟩
    rw [hqueues.queueOf] at ha
    split_ifs at ha
    · exact absurd ha (by simp)
    · exact horphan.queueOf alpn a ha
  | connectionClosed _ hop _ hqueues =>
    subst hop
    refine ⟨hkey, hidle (by simp [admission]) rfl, fun alpn a ha => ?_⟩
    rw [hqueues.queueOf] at ha
    exact horphan.queueOf alpn a ha
  | nodeClosed _ hop _ hqueues =>
    subst hop
    refine ⟨hkey, hidle (by simp [admission]) rfl, fun alpn a ha => ?_⟩
    rw [hqueues] at ha
    exact absurd ha (by simp)

/-- **An orphan stays one**: no caller ever gets it. -/
theorem orphaned_forever {key : BrowserConnectionKey} (horphan : t.Orphaned key) (h : t.InOrder)
    {events : List (AcceptEvent E)} (hrun : Runs.run step t events = some t') :
    t'.Orphaned key := by
  have hall : t'.InOrder ∧ t'.Orphaned key := by
    refine Runs.run_invariant (I := fun u => u.InOrder ∧ u.Orphaned key)
      (fun u event v hu hstep => ⟨hu.1.step hstep, ?_⟩) ⟨h, horphan⟩ hrun
    cases event with
    | node op => exact hu.2.step_node hu.1 hstep
    | receives waiter =>
      obtain rfl := Option.some.inj hstep
      exact ⟨hu.2.admitted, Option.map_eq_none_iff.mpr hu.2.handover, hu.2.queueOf⟩
  exact hall.2

end

section Sample

open scoped Sample
open Sample

/-- A connection of `bob` over the relay. -/
def sampleInbound : Connection Key where
  remoteId := bob
  alpn := utf8Bytes "chat"
  paths := []

/-- A call of `accept_next` waits, gets the first connection, and the second one is queued. -/
def sampleAccepts : List (AcceptEvent Key) :=
  [.node (.acceptOpen "chat"), .node (.acceptNext ⟨1⟩), .node (.relayConnection sampleInbound true),
    .receives 0, .node (.relayConnection sampleInbound true)]

theorem kept_iff_sample :
    ∃ final, Runs.run step (new sampleNode) sampleAccepts = some final ∧
      ((∀ pre post t, sampleAccepts = pre ++ post →
          Runs.run step (new sampleNode) pre = some t → t.Kept fun _ => True) ↔
        Runs.Guarded step ClosesEmptied (new sampleNode) sampleAccepts) := by
  have hspawn : spawn alice epoch ⟨8, ["chat"], []⟩ [] = .ok sampleNode := rfl
  have hrun : ∃ final, Runs.run step (new sampleNode) sampleAccepts = some final := ⟨_, rfl⟩
  obtain ⟨final, hrun⟩ := hrun
  exact ⟨final, hrun, (kept_iff hspawn hrun).1⟩

/-- The acceptor is closed while a connection is in its queue. -/
def sampleAcceptClose : List (AcceptEvent Key) :=
  [.node (.acceptOpen "chat"), .node (.relayConnection sampleInbound true),
    .node (.acceptClose ⟨1⟩)]

/-- **Closing the acceptor orphans a connection.**  It stays open in the table, and no caller ever
gets it. -/
theorem acceptClose_orphans :
    ∃ t c, Runs.run step (new sampleNode) sampleAcceptClose = some t ∧
      (⟨1⟩ : BrowserConnectionKey) ∈ t.admitted ∧ t.node.connections.lookup ⟨1⟩ = some c ∧
      c.closed = false ∧ ¬ t.Kept (fun _ => True) ∧
      ∀ later t', Runs.run step t later = some t' → t'.handover ⟨1⟩ = none := by
  have hspawn : spawn alice epoch ⟨8, ["chat"], []⟩ [] = .ok sampleNode := rfl
  have hrun : ∃ t c, Runs.run step (new sampleNode) sampleAcceptClose = some t ∧
      (⟨1⟩ : BrowserConnectionKey) ∈ t.admitted ∧ t.node.connections.lookup ⟨1⟩ = some c ∧
      c.closed = false ∧ t.handover ⟨1⟩ = none ∧ t.node.queueOf "chat" = [] ∧
      c.irohConnection.alpn = utf8Bytes "chat" :=
    ⟨_, _, rfl, List.mem_cons_self, rfl, rfl, rfl, rfl, rfl⟩
  obtain ⟨t, c, hrun, hadmitted, hc, hopen, hhandover, hqueue, halpn⟩ := hrun
  have hqueued : ¬ t.Queued ⟨1⟩ c := by
    rintro ⟨a, ha, -⟩
    rw [halpn, fromUtf8Lossy_utf8Bytes, hqueue] at ha
    exact absurd ha (by simp)
  have hinOrder : t.InOrder :=
    Runs.run_invariant (fun _ _ _ h hstep => h.step hstep) (inOrder_new hspawn) hrun
  have horphan : t.Orphaned ⟨1⟩ := hinOrder.orphaned hadmitted hhandover hc hqueued
  refine ⟨t, c, hrun, hadmitted, hc, hopen, fun hkept => ?_,
    fun later t' hlater => (orphaned_forever horphan hinOrder hlater).handover⟩
  rcases hkept _ hadmitted c hc hopen with h | ⟨handover, hsome, -⟩
  · exact hqueued h
  · exact absurd (hhandover.symm.trans hsome) (by simp)

end Sample

end AcceptTrace

end IrohWebRtc
