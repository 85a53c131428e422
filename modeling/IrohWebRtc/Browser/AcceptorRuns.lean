import IrohWebRtc.Browser.ConnectionSteps

/-!
# The acceptor of one ALPN

`browser_runtime/node/accept_state.rs` and the operations of `node/connection.rs` that reach it:
one registration under admissions, calls of `accept_next`, calls that are dropped while they wait,
and `accept_close`, in any order.

Calls are numbered in the order in which they are made.  A call either returns the first
connection of the queue at once or waits; a waiting call may be dropped at any time, and the
registration finds out only when it tries to hand it a connection.

Fairness has two sides here: connections are handed out in the order of their admission, and calls
are served in the order in which they were made.  Both hold because the queue and the list of the
waiters are never nonempty together, apart from waiters that are gone.  A call that is gone is
skipped without losing the connection, which goes on to the next waiter or into the queue.

* `popLiveWaiter_eq_some`: a push hands its connection to the first waiting call that is left.
* `AcceptorTrace.Valid.step`: the invariant of the queue and the waiters.
* `acceptorLaw`: over every run, each admitted connection was handed to one call, was discarded by
  a close, or is in the queue, in the order of admission, and calls are served in their order.
* `acceptNext_registration`: the call of the node is the call of the registration.
-/

namespace IrohWebRtc

open Bytes Utf8

/-! ## One registration -/

namespace AcceptRegistrationState

variable {E : Type*}

/-- `accept_next` on the registration: the connection that is returned at once, if there is one. -/
def acceptNext (registration : AcceptRegistrationState E) (waiter : ℕ) :
    Option (BrowserAcceptedConnection E) × AcceptRegistrationState E :=
  match registration.queue with
  | connection :: queue => (some connection, { registration with queue := queue })
  | [] =>
    (none, { registration with waiters := registration.waiters ++ [⟨waiter, true⟩] })

/-- The waiters that are dropped before one is found are gone already. -/
theorem popLiveWaiter_eq_some {waiters rest : List AcceptWaiter} {waiter : AcceptWaiter}
    (h : popLiveWaiter waiters = some (waiter, rest)) :
    waiter.receiverAlive = true ∧ ∃ gone, waiters = gone ++ waiter :: rest ∧
      ∀ w ∈ gone, w.receiverAlive = false := by
  induction waiters with
  | nil => cases h
  | cons first waiters ih =>
    rw [popLiveWaiter] at h
    split_ifs at h with halive
    · obtain ⟨rfl, rfl⟩ := Prod.mk.inj (Option.some.inj h)
      exact ⟨halive, [], rfl, nofun⟩
    · obtain ⟨hwaiter, gone, rfl, hgone⟩ := ih h
      refine ⟨hwaiter, first :: gone, rfl, fun w hw => ?_⟩
      rcases List.mem_cons.mp hw with rfl | hw
      · exact Bool.eq_false_iff.mpr halive
      · exact hgone w hw

theorem popLiveWaiter_eq_none {waiters : List AcceptWaiter} :
    popLiveWaiter waiters = none ↔ ∀ w ∈ waiters, w.receiverAlive = false := by
  induction waiters with
  | nil => exact ⟨fun _ => nofun, fun _ => rfl⟩
  | cons first waiters ih =>
    rw [popLiveWaiter, List.forall_mem_cons]
    split_ifs with halive
    · exact ⟨nofun, fun h => absurd (halive.symm.trans h.1) nofun⟩
    · rw [ih]
      exact ⟨fun h => ⟨Bool.eq_false_iff.mpr halive, h⟩, fun h => h.2⟩

end AcceptRegistrationState

/-! ## Runs -/

/-- The operations that reach a registration. -/
inductive AcceptorOp (E : Type*) where
  | pushOrWake (connection : BrowserAcceptedConnection E)
  /-- The call number `call` of `accept_next`. -/
  | acceptNext (call : ℕ)
  /-- The future of a call is dropped. -/
  | dropWaiter (call : ℕ)
  | acceptOpen
  | acceptClose

/-- What became of a connection that left the queue, or went past it. -/
inductive AcceptorFate where
  | handed (call : ℕ)
  | discarded
  deriving DecidableEq

/-- A registration, the connections whose admission succeeded, and what became of those that are not
in the queue. -/
structure AcceptorTrace (E : Type*) where
  registration : AcceptRegistrationState E
  nextCall : ℕ
  admitted : List (BrowserAcceptedConnection E)
  settled : List (BrowserAcceptedConnection E × AcceptorFate)

namespace AcceptorTrace

variable {E : Type*}

def new (id : BrowserAcceptId) (alpn : String) (capacity : ℕ) : AcceptorTrace E where
  registration := .new id alpn capacity
  nextCall := 0
  admitted := []
  settled := []

/-- One operation.  Calls have numbers that go up, not always by one, since a node numbers the calls
of all its acceptors together. -/
def step (t : AcceptorTrace E) : AcceptorOp E → Option (AcceptorTrace E)
  | .pushOrWake connection =>
    match t.registration.pushOrWake connection with
    | (.ok (some waiter), registration) =>
      some { t with
        registration := registration
        admitted := t.admitted ++ [connection]
        settled := t.settled ++ [(connection, .handed waiter.id)] }
    | (.ok none, registration) =>
      some { t with registration := registration, admitted := t.admitted ++ [connection] }
    | (.error _, registration) => some { t with registration := registration }
  | .acceptNext call =>
    if call < t.nextCall then none
    else
      match t.registration.acceptNext call with
      | (some connection, registration) =>
        some { t with
          registration := registration
          nextCall := call + 1
          settled := t.settled ++ [(connection, .handed call)] }
      | (none, registration) => some { t with registration := registration, nextCall := call + 1 }
  | .dropWaiter call => some { t with registration := t.registration.dropWaiter call }
  | .acceptOpen => some { t with registration := { t.registration with claimed := true } }
  | .acceptClose =>
    some { t with
      registration := t.registration.closeAcceptor
      settled := t.settled ++ t.registration.queue.map fun connection => (connection, .discarded) }

/-- The calls that were handed a connection, in the order in which they were. -/
def servedCalls (settled : List (BrowserAcceptedConnection E × AcceptorFate)) : List ℕ :=
  settled.filterMap fun entry =>
    match entry.2 with
    | .handed call => some call
    | .discarded => none

def served (t : AcceptorTrace E) : List ℕ := servedCalls t.settled

/-- A waiting call of the registration that is still there. -/
def Live (t : AcceptorTrace E) (waiter : AcceptWaiter) : Prop :=
  waiter ∈ t.registration.waiters ∧ waiter.receiverAlive = true

/-! ## The invariant -/

/-- No call waits while there is something in the queue; waiting calls stand in their order; and a
call that was served came before every call that waits. -/
structure Valid (t : AcceptorTrace E) : Prop where
  admitted : t.admitted = t.settled.map Prod.fst ++ t.registration.queue
  idle : t.registration.queue ≠ [] → ∀ waiter, ¬ t.Live waiter
  length_le : t.registration.queue.length ≤ t.registration.capacity
  sorted : t.registration.waiters.Pairwise fun w w' => w.id < w'.id
  below : ∀ waiter ∈ t.registration.waiters, waiter.id < t.nextCall
  served_below : ∀ call ∈ t.served, call < t.nextCall
  served_lt : ∀ call ∈ t.served, ∀ waiter, t.Live waiter → call < waiter.id
  served_sorted : t.served.Pairwise (· < ·)

theorem valid_new (id : BrowserAcceptId) (alpn : String) (capacity : ℕ) :
    (new id alpn capacity : AcceptorTrace E).Valid where
  admitted := rfl
  idle h := absurd rfl h
  length_le := Nat.zero_le _
  sorted := List.Pairwise.nil
  below := nofun
  served_below := nofun
  served_lt := nofun
  served_sorted := List.Pairwise.nil

variable {t t' : AcceptorTrace E}

/-- A push hands its connection to the live waiter whose call is the oldest. -/
theorem Valid.oldest (h : t.Valid) {waiter : AcceptWaiter} {rest : List AcceptWaiter}
    (hpop : AcceptRegistrationState.popLiveWaiter t.registration.waiters = some (waiter, rest)) :
    t.Live waiter ∧ (∀ w, t.Live w → waiter.id ≤ w.id) ∧
      (rest.Pairwise fun w w' => w.id < w'.id) ∧
      ∀ w ∈ rest, w ∈ t.registration.waiters ∧ waiter.id < w.id := by
  obtain ⟨halive, gone, hwaiters, hgone⟩ := AcceptRegistrationState.popLiveWaiter_eq_some hpop
  have hsorted := h.sorted
  rw [hwaiters, List.pairwise_append, List.pairwise_cons] at hsorted
  obtain ⟨-, ⟨hlater, hrest⟩, -⟩ := hsorted
  have hmem : ∀ w, w ∈ t.registration.waiters ↔ w ∈ gone ∨ w = waiter ∨ w ∈ rest := by
    intro w
    rw [hwaiters, List.mem_append, List.mem_cons]
  refine ⟨⟨(hmem waiter).mpr (Or.inr (Or.inl rfl)), halive⟩, fun w hw => ?_, hrest,
    fun w hw => ⟨(hmem w).mpr (Or.inr (Or.inr hw)), hlater w hw⟩⟩
  rcases (hmem w).mp hw.1 with hdead | rfl | hw'
  · exact absurd ((hgone w hdead).symm.trans hw.2) nofun
  · exact le_rfl
  · exact (hlater w hw').le

theorem servedCalls_concat (settled : List (BrowserAcceptedConnection E × AcceptorFate))
    (connection : BrowserAcceptedConnection E) (call : ℕ) :
    servedCalls (settled ++ [(connection, .handed call)]) = servedCalls settled ++ [call] := by
  rw [servedCalls, List.filterMap_append]
  rfl

theorem servedCalls_append_discarded
    (settled : List (BrowserAcceptedConnection E × AcceptorFate))
    (queue : List (BrowserAcceptedConnection E)) :
    servedCalls (settled ++ queue.map fun c => (c, .discarded)) = servedCalls settled := by
  rw [servedCalls, servedCalls, List.filterMap_append, List.append_right_eq_self,
    List.filterMap_map]
  exact List.filterMap_eq_nil_iff.mpr fun c _ => rfl

/-- A push hands the connection over, finds the queue full, or queues the connection; in the last
two cases no waiting call is left. -/
theorem step_pushOrWake {connection : BrowserAcceptedConnection E}
    (hstep : t.step (.pushOrWake connection) = some t') :
    (∃ waiter rest,
        AcceptRegistrationState.popLiveWaiter t.registration.waiters = some (waiter, rest) ∧
        t' = { t with
          registration := { t.registration with waiters := rest }
          admitted := t.admitted ++ [connection]
          settled := t.settled ++ [(connection, .handed waiter.id)] }) ∨
      (∀ waiter, ¬ t.Live waiter) ∧
        (t' = { t with registration := { t.registration with waiters := [] } } ∨
          t.registration.queue.length < t.registration.capacity ∧
            t' = { t with
              registration := { t.registration with
                waiters := [], queue := t.registration.queue ++ [connection] }
              admitted := t.admitted ++ [connection] }) := by
  rw [step, AcceptRegistrationState.pushOrWake] at hstep
  cases hpop : AcceptRegistrationState.popLiveWaiter t.registration.waiters with
  | some found =>
    obtain ⟨waiter, rest⟩ := found
    rw [hpop] at hstep
    exact Or.inl ⟨waiter, rest, rfl, (Option.some.inj hstep).symm⟩
  | none =>
    rw [hpop] at hstep
    have hgone := AcceptRegistrationState.popLiveWaiter_eq_none.mp hpop
    refine Or.inr ⟨fun waiter hlive => ?_, ?_⟩
    · exact absurd ((hgone waiter hlive.1).symm.trans hlive.2) nofun
    · by_cases hfull : t.registration.capacity ≤ t.registration.queue.length
      · simp only [if_pos hfull] at hstep
        exact Or.inl (Option.some.inj hstep).symm
      · simp only [if_neg hfull] at hstep
        exact Or.inr ⟨Nat.lt_of_not_le hfull, (Option.some.inj hstep).symm⟩

theorem Valid.step_pushOrWake (h : t.Valid) {connection : BrowserAcceptedConnection E}
    (hstep : t.step (.pushOrWake connection) = some t') : t'.Valid := by
  rcases AcceptorTrace.step_pushOrWake hstep with
    ⟨waiter, rest, hpop, rfl⟩ | ⟨hnone, rfl | ⟨hroom, rfl⟩⟩
  · obtain ⟨hlive, holdest, hrest, hlater⟩ := h.oldest hpop
    -- a call waits, so the queue is empty and the connection is the next one to leave
    have hempty : t.registration.queue = [] := by
      by_contra hne
      exact h.idle hne waiter hlive
    have hbelow := h.below waiter hlive.1
    have hserved : ∀ call, call ∈ t.served ++ [waiter.id] → call ≤ waiter.id := by
      intro call hcall
      rcases List.mem_append.mp hcall with hcall | hcall
      · exact (h.served_lt call hcall waiter hlive).le
      · exact (List.mem_singleton.mp hcall).le
    refine ⟨?_, fun hne => absurd hempty hne, h.length_le, hrest,
      fun w hw => h.below w (hlater w hw).1, ?_, ?_, ?_⟩
    · show t.admitted ++ [connection] =
        (t.settled ++ [(connection, _)]).map Prod.fst ++ t.registration.queue
      rw [h.admitted, hempty, List.append_nil, List.append_nil, List.map_append]
      rfl
    · intro call hcall
      rw [served, servedCalls_concat] at hcall
      exact lt_of_le_of_lt (hserved call hcall) hbelow
    · intro call hcall w hw
      rw [served, servedCalls_concat] at hcall
      exact lt_of_le_of_lt (hserved call hcall) (hlater w hw.1).2
    · rw [served, servedCalls_concat, List.pairwise_append]
      refine ⟨h.served_sorted, List.pairwise_singleton _ _, fun call hcall call' hcall' => ?_⟩
      rw [List.mem_singleton.mp hcall']
      exact h.served_lt call hcall waiter hlive
  · exact ⟨h.admitted, fun _ w hw => absurd hw.1 List.not_mem_nil, h.length_le,
      List.Pairwise.nil, nofun, h.served_below, fun _ _ w hw => absurd hw.1 List.not_mem_nil,
      h.served_sorted⟩
  · refine ⟨?_, fun _ w hw => absurd hw.1 List.not_mem_nil, ?_, List.Pairwise.nil, nofun,
      h.served_below, fun _ _ w hw => absurd hw.1 List.not_mem_nil, h.served_sorted⟩
    · show t.admitted ++ [connection] = t.settled.map Prod.fst ++ (t.registration.queue ++ _)
      rw [h.admitted, List.append_assoc]
    · show (t.registration.queue ++ [connection]).length ≤ t.registration.capacity
      rw [List.length_append, List.length_singleton]
      omega

/-- A call of `accept_next` returns the first connection of the queue, or it waits. -/
theorem step_acceptNext {call : ℕ} (hstep : t.step (.acceptNext call) = some t') :
    t.nextCall ≤ call ∧
      ((∃ connection queue, t.registration.queue = connection :: queue ∧
          t' = { t with
            registration := { t.registration with queue := queue }
            nextCall := call + 1
            settled := t.settled ++ [(connection, .handed call)] }) ∨
        t.registration.queue = [] ∧
          t' = { t with
            registration := { t.registration with
              waiters := t.registration.waiters ++ [⟨call, true⟩] }
            nextCall := call + 1 }) := by
  rw [step] at hstep
  split_ifs at hstep with hlt
  refine ⟨Nat.le_of_not_lt hlt, ?_⟩
  rw [AcceptRegistrationState.acceptNext] at hstep
  cases hqueue : t.registration.queue with
  | cons connection queue =>
    rw [hqueue] at hstep
    exact Or.inl ⟨connection, queue, rfl, (Option.some.inj hstep).symm⟩
  | nil =>
    rw [hqueue] at hstep
    refine Or.inr ⟨rfl, ?_⟩
    rw [← Option.some.inj hstep, ← hqueue]

theorem Valid.step_acceptNext (h : t.Valid) {call : ℕ}
    (hstep : t.step (.acceptNext call) = some t') : t'.Valid := by
  obtain ⟨hfresh, ⟨connection, queue, hqueue, rfl⟩ | ⟨hqueue, rfl⟩⟩ :=
    AcceptorTrace.step_acceptNext hstep
  · have hnone : ∀ waiter, ¬ t.Live waiter := h.idle (by rw [hqueue]; exact List.cons_ne_nil _ _)
    have hlen := h.length_le
    rw [hqueue, List.length_cons] at hlen
    refine ⟨?_, fun _ w hw => hnone w hw, Nat.le_of_succ_le hlen, h.sorted, fun w hw => ?_, ?_,
      fun _ _ w hw => absurd hw (hnone w), ?_⟩
    · show t.admitted = (t.settled ++ [(connection, _)]).map Prod.fst ++ queue
      rw [h.admitted, hqueue, List.map_append, List.append_assoc]
      rfl
    · have hbelow := h.below w hw
      show w.id < call + 1
      omega
    · intro call' hcall
      rw [served, servedCalls_concat] at hcall
      show call' < call + 1
      rcases List.mem_append.mp hcall with hcall | hcall
      · have hbelow := h.served_below call' hcall
        omega
      · rw [List.mem_singleton.mp hcall]
        exact Nat.lt_succ_self call
    · rw [served, servedCalls_concat, List.pairwise_append]
      refine ⟨h.served_sorted, List.pairwise_singleton _ _, fun call' hcall' later hlater => ?_⟩
      rw [List.mem_singleton.mp hlater]
      exact lt_of_lt_of_le (h.served_below call' hcall') hfresh
  · refine ⟨h.admitted, fun hne => absurd hqueue hne, h.length_le, ?_, ?_, ?_, ?_,
      h.served_sorted⟩
    · show List.Pairwise (fun w w' => w.id < w'.id) (t.registration.waiters ++ [⟨call, true⟩])
      refine List.pairwise_append.mpr ⟨h.sorted, List.pairwise_singleton _ _, ?_⟩
      intro w hw w' hw'
      rw [List.mem_singleton.mp hw']
      exact lt_of_lt_of_le (h.below w hw) hfresh
    · intro w hw
      show w.id < call + 1
      rcases List.mem_append.mp hw with hw | hw
      · have hbelow := h.below w hw
        omega
      · rw [List.mem_singleton.mp hw]
        exact Nat.lt_succ_self call
    · intro call' hcall'
      have hbelow := h.served_below call' hcall'
      show call' < call + 1
      omega
    · intro call' hcall' w hw
      rcases List.mem_append.mp hw.1 with hmem | hmem
      · exact h.served_lt call' hcall' w ⟨hmem, hw.2⟩
      · rw [List.mem_singleton.mp hmem]
        exact lt_of_lt_of_le (h.served_below call' hcall') hfresh

/-- A waiting call that is dropped stays in its place. -/
theorem Valid.step_dropWaiter (h : t.Valid) (call : ℕ) :
    ({ t with registration := t.registration.dropWaiter call }).Valid := by
  have hid : ∀ w : AcceptWaiter,
      (if w.id = call then { w with receiverAlive := false } else w).id = w.id := by
    intro w
    split_ifs
    · rfl
    · rfl
  have hlive : ∀ w, Live { t with registration := t.registration.dropWaiter call } w →
      t.Live w := by
    rintro w ⟨hmem, halive⟩
    obtain ⟨w', hw', rfl⟩ := List.mem_map.mp hmem
    split_ifs at halive ⊢
    exact ⟨hw', halive⟩
  refine ⟨h.admitted, fun hne w hw => h.idle hne w (hlive w hw), h.length_le, ?_, ?_,
    h.served_below, fun call' hcall' w hw => h.served_lt call' hcall' w (hlive w hw),
    h.served_sorted⟩
  · show List.Pairwise (fun w w' : AcceptWaiter => w.id < w'.id) (t.registration.waiters.map _)
    refine List.pairwise_map.mpr (h.sorted.imp fun hlt => ?_)
    rw [hid, hid]
    exact hlt
  · intro w hw
    obtain ⟨w', hw', rfl⟩ := List.mem_map.mp hw
    rw [hid]
    exact h.below w' hw'

theorem Valid.step_acceptClose (h : t.Valid) :
    ({ t with
      registration := t.registration.closeAcceptor
      settled := t.settled ++ t.registration.queue.map fun connection =>
        (connection, AcceptorFate.discarded) }).Valid := by
  refine ⟨?_, fun _ w hw => absurd hw.1 List.not_mem_nil, Nat.zero_le _, List.Pairwise.nil, nofun,
    ?_, fun _ _ w hw => absurd hw.1 List.not_mem_nil, ?_⟩
  · show t.admitted = (t.settled ++ t.registration.queue.map fun c => (c, _)).map Prod.fst ++ []
    rw [h.admitted, List.append_nil, List.map_append, List.map_map]
    exact congrArg _ (List.map_id _).symm
  · intro call hcall
    rw [served, servedCalls_append_discarded] at hcall
    exact h.served_below call hcall
  · rw [served, servedCalls_append_discarded]
    exact h.served_sorted

theorem Valid.step (h : t.Valid) {op : AcceptorOp E} (hstep : t.step op = some t') : t'.Valid := by
  cases op with
  | pushOrWake connection => exact h.step_pushOrWake hstep
  | acceptNext call => exact h.step_acceptNext hstep
  | dropWaiter call =>
    obtain rfl := Option.some.inj hstep
    exact h.step_dropWaiter call
  | acceptOpen =>
    obtain rfl := Option.some.inj hstep
    exact ⟨h.admitted, h.idle, h.length_le, h.sorted, h.below, h.served_below, h.served_lt,
      h.served_sorted⟩
  | acceptClose =>
    obtain rfl := Option.some.inj hstep
    exact h.step_acceptClose

/-- Only a close discards, and it discards what is in the queue. -/
theorem exists_close_of_discarded {id : BrowserAcceptId} {alpn : String} {capacity : ℕ}
    {ops : List (AcceptorOp E)} (hrun : Runs.run step (new id alpn capacity) ops = some t)
    {connection : BrowserAcceptedConnection E} (hdiscarded : (connection, .discarded) ∈ t.settled) :
    ∃ pre post s, ops = pre ++ .acceptClose :: post ∧
      Runs.run step (new id alpn capacity) pre = some s ∧ connection ∈ s.registration.queue := by
  obtain ⟨pre, op, post, u, v, rfl, hpre, hstep, -, hnot, hmem⟩ :=
    Runs.exists_step_of_run (P := fun t => (connection, .discarded) ∈ t.settled) List.not_mem_nil
      hdiscarded hrun
  cases op with
  | acceptClose =>
    obtain rfl := Option.some.inj hstep
    rcases List.mem_append.mp hmem with hmem | hmem
    · exact absurd hmem hnot
    · obtain ⟨c, hc, heq⟩ := List.mem_map.mp hmem
      obtain rfl := (Prod.mk.inj heq).1
      exact ⟨pre, post, u, rfl, hpre, hc⟩
  | pushOrWake c =>
    rcases step_pushOrWake hstep with ⟨waiter, rest, -, rfl⟩ | ⟨-, rfl | ⟨-, rfl⟩⟩
    · rcases List.mem_append.mp hmem with hmem | hmem
      · exact absurd hmem hnot
      · cases (Prod.mk.inj (List.mem_singleton.mp hmem)).2
    · exact absurd hmem hnot
    · exact absurd hmem hnot
  | acceptNext call =>
    rcases (step_acceptNext hstep).2 with ⟨c, queue, -, rfl⟩ | ⟨-, rfl⟩
    · rcases List.mem_append.mp hmem with hmem | hmem
      · exact absurd hmem hnot
      · cases (Prod.mk.inj (List.mem_singleton.mp hmem)).2
    · exact absurd hmem hnot
  | dropWaiter call | acceptOpen =>
    obtain rfl := Option.some.inj hstep
    exact absurd hmem hnot

theorem capacity_run {id : BrowserAcceptId} {alpn : String} {capacity : ℕ}
    {ops : List (AcceptorOp E)} (hrun : Runs.run step (new id alpn capacity) ops = some t) :
    t.registration.capacity = capacity := by
  refine Runs.run_invariant (I := fun t => t.registration.capacity = capacity) ?_ rfl hrun
  intro s op s' hs hstep
  cases op with
  | pushOrWake c =>
    rcases step_pushOrWake hstep with ⟨waiter, rest, -, rfl⟩ | ⟨-, rfl | ⟨-, rfl⟩⟩
    · exact hs
    · exact hs
    · exact hs
  | acceptNext call =>
    rcases (step_acceptNext hstep).2 with ⟨c, queue, -, rfl⟩ | ⟨-, rfl⟩
    · exact hs
    · exact hs
  | dropWaiter call | acceptOpen | acceptClose =>
    obtain rfl := Option.some.inj hstep
    exact hs

/-! ## The law of an acceptor -/

/-- **The law of an acceptor.**  In every run of admissions, calls, dropped calls and closes:

* while the queue has something in it, no waiting call is left;
* the queue is within its capacity;
* the admitted connections, in their order, are those that were handed to a call or discarded and
  then those in the queue;
* calls are served in the order in which they were made, each with one connection;
* a push hands its connection to a waiting call that is still there, the oldest of them;
* only a close discards, and what it discards is in the queue. -/
theorem acceptorLaw {id : BrowserAcceptId} {alpn : String} {capacity : ℕ}
    {ops : List (AcceptorOp E)} (hrun : Runs.run step (new id alpn capacity) ops = some t) :
    (t.registration.queue ≠ [] → ∀ waiter, ¬ t.Live waiter) ∧
    t.registration.queue.length ≤ capacity ∧
    t.admitted = t.settled.map Prod.fst ++ t.registration.queue ∧
    t.served.Pairwise (· < ·) ∧
    (∀ connection waiter registration',
      t.registration.pushOrWake connection = (.ok (some waiter), registration') →
        t.Live waiter ∧ ∀ w, t.Live w → waiter.id ≤ w.id) ∧
    ∀ connection, (connection, .discarded) ∈ t.settled →
      ∃ pre post s, ops = pre ++ .acceptClose :: post ∧
        Runs.run step (new id alpn capacity) pre = some s ∧
          connection ∈ s.registration.queue := by
  have hvalid := Runs.run_invariant (fun _ _ _ h hstep => h.step hstep)
    (valid_new id alpn capacity) hrun
  have hlen := hvalid.length_le
  rw [capacity_run hrun] at hlen
  refine ⟨hvalid.idle, hlen, hvalid.admitted, hvalid.served_sorted, ?_,
    fun connection => exists_close_of_discarded hrun⟩
  intro connection waiter registration' hpush
  rw [AcceptRegistrationState.pushOrWake] at hpush
  cases hpop : AcceptRegistrationState.popLiveWaiter t.registration.waiters with
  | none =>
    rw [hpop] at hpush
    simp only at hpush
    split_ifs at hpush
    · cases (Prod.mk.inj hpush).1
    · cases (Prod.mk.inj hpush).1
  | some found =>
    obtain ⟨first, rest⟩ := found
    rw [hpop] at hpush
    obtain ⟨hlive, holdest, -⟩ := hvalid.oldest hpop
    obtain rfl := Option.some.inj (Except.ok.inj (Prod.mk.inj hpush).1)
    exact ⟨hlive, holdest⟩

/-! ## A concrete run -/

section Sample

open scoped Sample
open Sample

/-- An inbound connection of `bob`. -/
def relayed (key : ℕ) : BrowserAcceptedConnection Key where
  key := ⟨key⟩
  sessionKey := none
  remote := bob
  alpn := "app/1"
  transport := .irohRelay

/-- Of two waiting calls the first is dropped; the second is served, the next connection is queued,
one more finds the queue full, and a later call takes the queued one. -/
def acceptorRun : List (AcceptorOp Key) :=
  [.acceptNext 0, .acceptNext 1, .dropWaiter 0, .pushOrWake (relayed 1), .pushOrWake (relayed 2),
    .pushOrWake (relayed 3), .acceptNext 2]

theorem acceptorLaw_sample : ∃ t, Runs.run step (new ⟨1⟩ "app/1" 1) acceptorRun = some t ∧
    t.settled = [(relayed 1, .handed 1), (relayed 2, .handed 2)] ∧
    t.admitted = t.settled.map Prod.fst ++ t.registration.queue ∧
    t.served.Pairwise (· < ·) := by
  have hrun : Runs.run step (new ⟨1⟩ "app/1" 1) acceptorRun =
      some ((acceptorRun.foldlM step (new ⟨1⟩ "app/1" 1)).getD (new ⟨1⟩ "app/1" 1)) := rfl
  obtain ⟨-, -, hadmitted, hserved, -⟩ := acceptorLaw hrun
  exact ⟨_, hrun, rfl, hadmitted, hserved⟩

end Sample

end AcceptorTrace

/-! ## The node -/

/-- A call of `accept_next` on an open node is the call of the registration it names. -/
theorem BrowserRuntimeNode.acceptNext_registration {E : Type*} {node : BrowserRuntimeNode E}
    {acceptId : BrowserAcceptId} {registration : AcceptRegistrationState E}
    (hopen : node.closed = false)
    (hfind : (node.accepts.values.find? fun registration => registration.id = acceptId) =
      some registration) :
    (node.acceptNext acceptId).1 =
        .ok (((registration.acceptNext node.nextWaiter).1.map .ready).getD
          (.waiting node.nextWaiter)) ∧
      (node.acceptNext acceptId).2.accepts =
        node.accepts.insert registration.alpn (registration.acceptNext node.nextWaiter).2 := by
  rw [acceptNext, if_neg (by rw [hopen]; exact Bool.false_ne_true), hfind]
  obtain ⟨id, alpn, claimed, queue, waiters, capacity⟩ := registration
  cases queue with
  | nil => exact ⟨rfl, rfl⟩
  | cons connection queue => exact ⟨rfl, rfl⟩

end IrohWebRtc
