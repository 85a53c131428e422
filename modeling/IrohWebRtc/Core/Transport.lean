import IrohWebRtc.Core.Config
import IrohWebRtc.Core.Signaling
import IrohWebRtc.Lib.Runs

/-!
# The advertised addresses of a transport

`transport.rs`: the addresses a transport advertises are a list in a watchable.
`advertise_local_addr` gets the list, appends its address when the list lacks it, and sets the
result.  Getting and setting are atomic; the call as a whole is not, and the native node makes it
from two places of which only one holds its lock.  So a call may set a list that it got before
another call set its own.

This is the lost update of every counter that is read and written in two steps.  An address that
is lost stays lost, and the peers that look for the node under it do not find it.  No address is
advertised twice, though, whatever happens: a list that is set was made from one without
repetitions.

* `AdvertiseTrace.step`: any number of calls, interleaved between the get and the set of each.
* `serial_of_holdsCurrent`, `holdsCurrent_of_alone`: calls between whose get and set no other call
  sets are as if they had been made one after the other.
* `advertised_iff`: no run advertises an address twice, and its states advertise everything that
  was there and everything that calls have added exactly when each call sets on top of what is
  advertised at that moment.
* `concurrent_advertise_loses_addr`: two calls, of which one is lost.

The condition is weaker than that calls do not overlap.  Two calls may overlap and do no harm,
when the one that sets last has got what the other one has set, or when the other one sets nothing
new.
-/

namespace IrohWebRtc

/-- A transport without its hub. -/
structure WebRtcTransport where
  config : WebRtcTransportConfig
  localAddrs : List CustomAddr

namespace WebRtcTransport

def tryNew (config : WebRtcTransportConfig) : Except Error WebRtcTransport := do
  config.queues.validate
  config.frame.validate
  return ⟨config, config.localAddr.toList⟩

/-- The second half of `advertise_local_addr`: what it sets, from the list it got.  `none` when it
returns without setting anything. -/
def withLocalAddr (localAddrs : List CustomAddr) (addr : CustomAddr) : Option (List CustomAddr) :=
  if addr ∈ localAddrs then none else some (localAddrs ++ [addr])

/-- `advertise_local_addr`, when nothing happens between its get and its set. -/
def advertiseLocalAddr (transport : WebRtcTransport) (addr : CustomAddr) : WebRtcTransport :=
  match withLocalAddr transport.localAddrs addr with
  | none => transport
  | some localAddrs => { transport with localAddrs := localAddrs }

/-- `set_local_addrs`. -/
def setLocalAddrs (transport : WebRtcTransport) (addrs : List CustomAddr) : WebRtcTransport :=
  { transport with localAddrs := addrs }

theorem withLocalAddr_eq_some {localAddrs updated : List CustomAddr} {addr : CustomAddr} :
    withLocalAddr localAddrs addr = some updated ↔
      addr ∉ localAddrs ∧ updated = localAddrs ++ [addr] := by
  rw [withLocalAddr]
  split_ifs with h
  · exact iff_of_false nofun fun hne => hne.1 h
  · rw [Option.some.injEq]
    exact ⟨fun heq => ⟨h, heq.symm⟩, fun heq => heq.2.symm⟩

/-- A new transport advertises one address or none. -/
theorem nodup_of_tryNew {config : WebRtcTransportConfig} {transport : WebRtcTransport}
    (h : tryNew config = .ok transport) : transport.localAddrs.Nodup := by
  rw [tryNew] at h
  cases hqueues : config.queues.validate with
  | error err =>
    rw [hqueues] at h
    cases h
  | ok _ =>
    cases hframe : config.frame.validate with
    | error err =>
      rw [hqueues, hframe] at h
      cases h
    | ok _ =>
      rw [hqueues, hframe] at h
      obtain rfl := Except.ok.inj h
      cases haddr : config.localAddr with
      | none => exact List.nodup_nil
      | some addr => exact List.pairwise_singleton _ addr

end WebRtcTransport

/-! ## Concurrent calls -/

/-- A call of `advertise_local_addr` that has got the list. -/
inductive AdvertiseCall where
  /-- It is about to set the list it got, with its address. -/
  | holding (addr : CustomAddr) (localAddrs : List CustomAddr)
  | returned (addr : CustomAddr)
  deriving DecidableEq

/-- A transport and the calls that were made on it. -/
structure AdvertiseTrace where
  transport : WebRtcTransport
  calls : List AdvertiseCall

inductive AdvertiseOp where
  /-- A new call gets the list, and returns if its address is there. -/
  | get (addr : CustomAddr)
  /-- The call of this number sets the list. -/
  | set (call : ℕ)

def AdvertiseOp.isGet : AdvertiseOp → Bool
  | .get _ => true
  | .set _ => false

namespace AdvertiseTrace

def new (transport : WebRtcTransport) : AdvertiseTrace := ⟨transport, []⟩

def step (t : AdvertiseTrace) : AdvertiseOp → Option AdvertiseTrace
  | .get addr =>
    match WebRtcTransport.withLocalAddr t.transport.localAddrs addr with
    | none => some { t with calls := t.calls ++ [.returned addr] }
    | some _ => some { t with calls := t.calls ++ [.holding addr t.transport.localAddrs] }
  | .set call =>
    match t.calls[call]? with
    | some (.holding addr localAddrs) =>
      (WebRtcTransport.withLocalAddr localAddrs addr).map fun updated =>
        { transport := t.transport.setLocalAddrs updated
          calls := t.calls.set call (.returned addr) }
    | _ => none

/-- Everything that is to be advertised: what was there before the calls, and what the calls that
have returned were for. -/
def Wanted (initial : List CustomAddr) (t : AdvertiseTrace) (addr : CustomAddr) : Prop :=
  addr ∈ initial ∨ .returned addr ∈ t.calls

/-- It is advertised. -/
def Advertises (initial : List CustomAddr) (t : AdvertiseTrace) : Prop :=
  ∀ addr, t.Wanted initial addr → addr ∈ t.transport.localAddrs

/-- A call that sets got every address that is advertised now, or it is the address of the call. -/
def SetsCurrent (t : AdvertiseTrace) : AdvertiseOp → Prop
  | .get _ => True
  | .set call => ∀ addr localAddrs, t.calls[call]? = some (.holding addr localAddrs) →
    ∀ a ∈ t.transport.localAddrs, a ∈ localAddrs ∨ a = addr

/-- What every step keeps: nothing is advertised that is not wanted, and no list repeats an
address. -/
structure Valid (initial : List CustomAddr) (t : AdvertiseTrace) : Prop where
  wanted : ∀ addr ∈ t.transport.localAddrs, t.Wanted initial addr
  holding : ∀ addr localAddrs, .holding addr localAddrs ∈ t.calls →
    (∀ a ∈ localAddrs, t.Wanted initial a) ∧ addr ∉ localAddrs ∧
      (initial.Nodup → localAddrs.Nodup)
  nodup : initial.Nodup → t.transport.localAddrs.Nodup

variable {initial : List CustomAddr} {t t' : AdvertiseTrace}

/-- What a step does: a call returns at once, a call gets the list, or a call that got a list
without its address sets it with the address. -/
theorem step_cases {op : AdvertiseOp} (h : t.step op = some t') :
    (∃ addr, op = .get addr ∧ t'.transport = t.transport ∧
        (addr ∈ t.transport.localAddrs ∧ t'.calls = t.calls ++ [.returned addr] ∨
          addr ∉ t.transport.localAddrs ∧
            t'.calls = t.calls ++ [.holding addr t.transport.localAddrs])) ∨
      ∃ call addr localAddrs, op = .set call ∧ t.calls[call]? = some (.holding addr localAddrs) ∧
        addr ∉ localAddrs ∧ t'.transport.localAddrs = localAddrs ++ [addr] ∧
        t'.calls = t.calls.set call (.returned addr) := by
  cases op with
  | get addr =>
    rw [step, WebRtcTransport.withLocalAddr] at h
    by_cases hmem : addr ∈ t.transport.localAddrs
    · rw [if_pos hmem] at h
      obtain rfl := Option.some.inj h
      exact Or.inl ⟨addr, rfl, rfl, Or.inl ⟨hmem, rfl⟩⟩
    · rw [if_neg hmem] at h
      obtain rfl := Option.some.inj h
      exact Or.inl ⟨addr, rfl, rfl, Or.inr ⟨hmem, rfl⟩⟩
  | set call =>
    rw [step] at h
    split at h
    · rename_i addr localAddrs hcall
      obtain ⟨updated, hupdated, rfl⟩ := Option.map_eq_some_iff.mp h
      obtain ⟨hmem, rfl⟩ := WebRtcTransport.withLocalAddr_eq_some.mp hupdated
      exact Or.inr ⟨call, addr, localAddrs, rfl, hcall, hmem, rfl, rfl⟩
    · cases h

/-- A call that sets the list as it is now does what an undisturbed call does. -/
theorem step_undisturbed {call : ℕ} {addr : CustomAddr}
    (hcall : t.calls[call]? = some (.holding addr t.transport.localAddrs))
    (h : t.step (.set call) = some t') :
    t'.transport = t.transport.advertiseLocalAddr addr := by
  rw [step, hcall] at h
  obtain ⟨updated, hupdated, rfl⟩ := Option.map_eq_some_iff.mp h
  rw [WebRtcTransport.advertiseLocalAddr, hupdated]
  rfl

/-- A call that returns was holding its list before. -/
theorem mem_set_returned {call : ℕ} {addr a : CustomAddr} {localAddrs : List CustomAddr}
    (hcall : t.calls[call]? = some (.holding addr localAddrs)) :
    AdvertiseCall.returned a ∈ t.calls.set call (.returned addr) ↔
      .returned a ∈ t.calls ∨ a = addr := by
  obtain ⟨hlt, hget⟩ := List.getElem?_eq_some_iff.mp hcall
  constructor
  · intro h
    rcases List.mem_or_eq_of_mem_set h with h | h
    · exact Or.inl h
    · exact Or.inr (AdvertiseCall.returned.inj h)
  · rintro (h | rfl)
    · obtain ⟨i, hi, hreturned⟩ := List.mem_iff_getElem.mp h
      have hne : call ≠ i := by
        rintro rfl
        rw [hget] at hreturned
        cases hreturned
      refine List.mem_iff_getElem.mpr ⟨i, by rwa [List.length_set], ?_⟩
      rw [List.getElem_set_ne hne, hreturned]
    · exact List.mem_set hlt _

/-- What is wanted after a step. -/
theorem wanted_step {op : AdvertiseOp} (h : t.step op = some t') {a : CustomAddr}
    (ha : t.Wanted initial a) : t'.Wanted initial a := by
  rcases ha with ha | ha
  · exact Or.inl ha
  · refine Or.inr ?_
    rcases step_cases h with ⟨addr, -, -, ⟨-, hcalls⟩ | ⟨-, hcalls⟩⟩ |
      ⟨call, addr, localAddrs, -, hcall, -, -, hcalls⟩
    · rw [hcalls]
      exact List.mem_append_left _ ha
    · rw [hcalls]
      exact List.mem_append_left _ ha
    · rw [hcalls]
      exact (mem_set_returned hcall).mpr (Or.inl ha)

theorem Valid.step (h : t.Valid initial) {op : AdvertiseOp} (hstep : t.step op = some t') :
    t'.Valid initial := by
  have hwanted := fun a (ha : t.Wanted initial a) => wanted_step hstep ha
  -- a call that held its list before the step is still right about it
  have hbefore : ∀ a held, .holding a held ∈ t.calls → (∀ b ∈ held, t'.Wanted initial b) ∧
      a ∉ held ∧ (initial.Nodup → held.Nodup) := fun a held hheld =>
    (h.holding a held hheld).imp_left fun hall b hb => hwanted b (hall b hb)
  rcases step_cases hstep with ⟨addr, -, htransport, hcalls⟩ |
    ⟨call, addr, localAddrs, -, hcall, hmem, haddrs, hcalls⟩
  · refine ⟨fun a ha => ?_, fun a held hheld => ?_, ?_⟩
    · rw [htransport] at ha
      exact hwanted a (h.wanted a ha)
    · rcases hcalls with ⟨-, hcalls⟩ | ⟨hmem, hcalls⟩ <;>
        rw [hcalls, List.mem_append, List.mem_singleton] at hheld
      · rcases hheld with hheld | hheld
        · exact hbefore a held hheld
        · cases hheld
      · rcases hheld with hheld | hheld
        · exact hbefore a held hheld
        · obtain ⟨rfl, rfl⟩ := AdvertiseCall.holding.inj hheld
          exact ⟨fun b hb => hwanted b (h.wanted b hb), hmem, h.nodup⟩
    · rw [htransport]
      exact h.nodup
  · have hholding := h.holding addr localAddrs (List.mem_of_getElem? hcall)
    refine ⟨fun a ha => ?_, fun a held hheld => ?_, fun hinitial => ?_⟩
    · rw [haddrs, List.mem_append, List.mem_singleton] at ha
      rcases ha with ha | rfl
      · exact hwanted a (hholding.1 a ha)
      · refine Or.inr ?_
        rw [hcalls]
        exact (mem_set_returned hcall).mpr (Or.inr rfl)
    · rw [hcalls] at hheld
      rcases List.mem_or_eq_of_mem_set hheld with hheld | hheld
      · exact hbefore a held hheld
      · cases hheld
    · rw [haddrs]
      refine List.nodup_append.mpr ⟨hholding.2.2 hinitial, List.pairwise_singleton _ addr, ?_⟩
      rintro a ha b hb rfl
      exact hmem (List.mem_singleton.mp hb ▸ ha)

/-- **One step.**  Where everything wanted is advertised, it is so after the step exactly when the
step does not set a list that lacks something. -/
theorem advertises_step_iff (h : t.Valid initial) (hall : t.Advertises initial) {op : AdvertiseOp}
    (hstep : t.step op = some t') : t'.Advertises initial ↔ t.SetsCurrent op := by
  rcases step_cases hstep with ⟨addr, rfl, htransport, hcalls⟩ |
    ⟨call, addr, localAddrs, rfl, hcall, hmem, haddrs, hcalls⟩
  · refine iff_of_true (fun a ha => ?_) trivial
    rw [htransport]
    rcases ha with ha | ha
    · exact hall a (Or.inl ha)
    · rcases hcalls with ⟨hmem, hcalls⟩ | ⟨-, hcalls⟩
      · rw [hcalls, List.mem_append, List.mem_singleton] at ha
        rcases ha with ha | ha
        · exact hall a (Or.inr ha)
        · obtain rfl := AdvertiseCall.returned.inj ha
          exact hmem
      · rw [hcalls, List.mem_append, List.mem_singleton] at ha
        rcases ha with ha | ha
        · exact hall a (Or.inr ha)
        · cases ha
  · constructor
    · intro hall' addr' localAddrs' hcall' a ha
      obtain ⟨rfl, rfl⟩ := AdvertiseCall.holding.inj (Option.some.inj (hcall.symm.trans hcall'))
      have hafter := hall' a (wanted_step hstep (h.wanted a ha))
      rw [haddrs, List.mem_append, List.mem_singleton] at hafter
      exact hafter
    · intro hcurrent a ha
      rw [haddrs, List.mem_append, List.mem_singleton]
      rcases ha with ha | ha
      · exact hcurrent addr localAddrs hcall a (hall a (Or.inl ha))
      · rw [hcalls, mem_set_returned hcall] at ha
        rcases ha with ha | rfl
        · exact hcurrent addr localAddrs hcall a (hall a (Or.inr ha))
        · exact Or.inr rfl

theorem valid_new (transport : WebRtcTransport) :
    (new transport).Valid transport.localAddrs :=
  ⟨fun _ ha => Or.inl ha, nofun, id⟩

/-! ## Calls that are left alone -/

variable {transport : WebRtcTransport} {ops : List AdvertiseOp} {t t' : AdvertiseTrace}

/-- No other call sets between the get of a call and its set.  The number of a call is that of the
gets before its own. -/
def Alone (ops : List AdvertiseOp) : Prop :=
  ∀ pre addr mid call post, ops = pre ++ .get addr :: mid ++ .set call :: post →
    pre.countP AdvertiseOp.isGet = call → ∀ op ∈ mid, op.isGet = true

/-- A call that sets holds the list that is advertised now. -/
def HoldsCurrent (t : AdvertiseTrace) : AdvertiseOp → Prop
  | .get _ => True
  | .set call => ∀ addr localAddrs, t.calls[call]? = some (.holding addr localAddrs) →
    localAddrs = t.transport.localAddrs

theorem HoldsCurrent.setsCurrent {op : AdvertiseOp} (h : t.HoldsCurrent op) : t.SetsCurrent op := by
  cases op with
  | get addr => trivial
  | set call =>
    intro addr localAddrs hcall a ha
    rw [h addr localAddrs hcall]
    exact Or.inl ha

/-- Every get is a call. -/
theorem length_calls (hrun : Runs.run step t ops = some t') :
    t'.calls.length = t.calls.length + ops.countP AdvertiseOp.isGet := by
  induction ops generalizing t with
  | nil =>
    obtain rfl := Option.some.inj hrun
    rfl
  | cons op ops ih =>
    obtain ⟨u, hstep, hrest⟩ := Runs.run_cons.mp hrun
    rw [ih hrest, List.countP_cons]
    rcases step_cases hstep with ⟨addr, rfl, -, ⟨-, hcalls⟩ | ⟨-, hcalls⟩⟩ |
      ⟨call, addr, localAddrs, rfl, -, -, -, hcalls⟩
    · simp [hcalls, AdvertiseOp.isGet, Nat.add_comm, Nat.add_left_comm]
    · simp [hcalls, AdvertiseOp.isGet, Nat.add_comm, Nat.add_left_comm]
    · simp [hcalls, AdvertiseOp.isGet]

/-- Gets change nothing that is advertised. -/
theorem transport_of_gets (hgets : ∀ op ∈ ops, op.isGet = true)
    (hrun : Runs.run step t ops = some t') : t'.transport = t.transport := by
  refine Runs.run_invariant_of_guarded (I := fun u => u.transport = t.transport)
    (fun u op v hu hget hstep => ?_) rfl (Runs.Guarded.of_forall fun op hop _ => hgets op hop) hrun
  rcases step_cases hstep with ⟨addr, -, hsame, -⟩ | ⟨call, addr, localAddrs, rfl, -, -, -, -⟩
  · rw [hsame, hu]
  · cases hget

/-- A call that holds a list got it, when it was made. -/
theorem exists_get_of_holding {call : ℕ} {addr : CustomAddr} {localAddrs : List CustomAddr}
    (hrun : Runs.run step (new transport) ops = some t)
    (hcall : t.calls[call]? = some (.holding addr localAddrs)) :
    ∃ (pre mid : List AdvertiseOp) (u v : AdvertiseTrace), ops = pre ++ .get addr :: mid ∧
      pre.countP AdvertiseOp.isGet = call ∧ u.transport.localAddrs = localAddrs ∧
      v.transport = u.transport ∧ Runs.run step v mid = some t := by
  have hstart : ¬ (new transport).calls[call]? = some (.holding addr localAddrs) := by
    simp [new]
  obtain ⟨pre, op, mid, u, v, rfl, hpre, hstep, hmid, hnot, hyes⟩ :=
    Runs.exists_step_of_run (P := fun u : AdvertiseTrace =>
      u.calls[call]? = some (.holding addr localAddrs)) hstart hcall hrun
  have hlength := length_calls hpre
  rcases step_cases hstep with ⟨addr', rfl, hsame, ⟨-, hcalls⟩ | ⟨-, hcalls⟩⟩ |
    ⟨call', addr', localAddrs', rfl, -, -, -, hcalls⟩
  · rw [hcalls, List.getElem?_append] at hyes
    split_ifs at hyes with hlt
    · exact absurd hyes hnot
    · have hmem := List.mem_of_getElem? hyes
      cases List.mem_singleton.mp hmem
  · rw [hcalls, List.getElem?_append] at hyes
    split_ifs at hyes with hlt
    · exact absurd hyes hnot
    · obtain ⟨hrange, hget⟩ := List.getElem?_eq_some_iff.mp hyes
      have hmem := List.mem_of_getElem? hyes
      obtain ⟨rfl, rfl⟩ := AdvertiseCall.holding.inj (List.mem_singleton.mp hmem)
      refine ⟨pre, mid, u, v, rfl, ?_, rfl, hsame, hmid⟩
      rw [List.length_singleton] at hrange
      simp only [new, List.length_nil] at hlength
      omega
  · rw [hcalls, List.getElem?_set] at hyes
    split_ifs at hyes
    · cases hyes
    · exact absurd hyes hnot

/-- **Calls that are left alone hold what is advertised.** -/
theorem holdsCurrent_of_alone (halone : Alone ops) :
    Runs.Guarded step HoldsCurrent (new transport) ops := by
  refine Runs.guarded_iff_forall_split.mpr fun before op post t hops hrun => ?_
  cases op with
  | get addr => trivial
  | set call =>
    intro addr localAddrs hcall
    obtain ⟨pre, mid, u, v, rfl, hcount, rfl, hsame, hmid⟩ := exists_get_of_holding hrun hcall
    rw [transport_of_gets (halone pre addr mid call post hops hcount) hmid, hsame]

/-- The calls that have returned have done what they do when they are made one after the other. -/
def Serial (transport : WebRtcTransport) (t : AdvertiseTrace) : Prop :=
  ∃ addrs : List CustomAddr, (∀ addr, addr ∈ addrs ↔ .returned addr ∈ t.calls) ∧
    t.transport = addrs.foldl WebRtcTransport.advertiseLocalAddr transport

/-- Calls that hold what is advertised are made one after the other. -/
theorem serial_of_holdsCurrent (hguarded : Runs.Guarded step HoldsCurrent (new transport) ops)
    (hrun : Runs.run step (new transport) ops = some t) :
    t.Serial transport := by
  refine Runs.run_invariant_of_guarded (I := fun t => t.Serial transport)
    (fun t op t' ht hcurrent hstep => ?_) ⟨[], fun addr => by simp [new], rfl⟩ hguarded hrun
  obtain ⟨addrs, hreturned, htransport⟩ := ht
  rcases step_cases hstep with ⟨addr, rfl, hsame, ⟨hmem, hcalls⟩ | ⟨-, hcalls⟩⟩ |
    ⟨call, addr, localAddrs, rfl, hcall, -, -, hcalls⟩
  · -- the call finds its address, and an undisturbed one does nothing then
    refine ⟨addrs ++ [addr], fun a => ?_, ?_⟩
    · rw [hcalls, List.mem_append, List.mem_append, hreturned]
      simp
    · rw [List.foldl_concat, ← htransport, hsame, WebRtcTransport.advertiseLocalAddr,
        WebRtcTransport.withLocalAddr, if_pos hmem]
  · refine ⟨addrs, fun a => ?_, hsame.trans htransport⟩
    rw [hcalls, List.mem_append, hreturned]
    simp
  · refine ⟨addrs ++ [addr], fun a => ?_, ?_⟩
    · rw [hcalls, mem_set_returned hcall, List.mem_append, hreturned, List.mem_singleton]
    · obtain rfl := hcurrent addr localAddrs hcall
      rw [List.foldl_concat, ← htransport, step_undisturbed hcall hstep]

/-- **Concurrent advertisement.**  Start any number of calls on a transport that advertises no
address twice, and let their gets and sets interleave in any way.  No address is ever advertised
twice, and nothing else is advertised than what was there and what calls were for.  Every state of
the run advertises all of that, as far as the calls have returned, if and only if every call that
sets its list got all that is advertised at that moment; then so does the last state.

This is so when no other call sets between the get of a call and its set.  The calls that have
returned have then done what they do when they are made one after the other. -/
theorem advertised_iff {transport : WebRtcTransport} (hnodup : transport.localAddrs.Nodup)
    {ops : List AdvertiseOp} {final : AdvertiseTrace}
    (hrun : Runs.run step (new transport) ops = some final) :
    final.transport.localAddrs.Nodup ∧
      (∀ addr ∈ final.transport.localAddrs, final.Wanted transport.localAddrs addr) ∧
      ((∀ pre post t, ops = pre ++ post → Runs.run step (new transport) pre = some t →
          t.Advertises transport.localAddrs) ↔
        Runs.Guarded step SetsCurrent (new transport) ops) ∧
      (Runs.Guarded step SetsCurrent (new transport) ops →
        ∀ addr, addr ∈ final.transport.localAddrs ↔ final.Wanted transport.localAddrs addr) ∧
      (Alone ops → Runs.Guarded step SetsCurrent (new transport) ops ∧
        final.Serial transport) := by
  have hvalid : final.Valid transport.localAddrs :=
    Runs.run_invariant (fun _ _ _ h hstep => Valid.step h hstep) (valid_new transport) hrun
  have hnew : (new transport).Advertises transport.localAddrs := by
    rintro a (ha | ha)
    · exact ha
    · cases ha
  have hiff : (∀ pre post t, ops = pre ++ post → Runs.run step (new transport) pre = some t →
      t.Advertises transport.localAddrs) ↔ Runs.Guarded step SetsCurrent (new transport) ops := by
    rw [Runs.forall_prefix_iff_guarded (fun _ _ _ h hstep => Valid.step h hstep)
      (fun _ _ _ h hall hstep => advertises_step_iff h hall hstep) (valid_new transport) hrun]
    exact and_iff_right hnew
  refine ⟨hvalid.nodup hnodup, hvalid.wanted, hiff, fun hguard addr => ⟨hvalid.wanted addr, ?_⟩,
    fun halone => ?_⟩
  · exact hiff.mpr hguard ops [] final (List.append_nil ops).symm hrun addr
  · have hcurrent : Runs.Guarded step HoldsCurrent (new transport) ops :=
      holdsCurrent_of_alone halone
    exact ⟨hcurrent.mono fun _ _ h => h.setsCurrent, serial_of_holdsCurrent hcurrent hrun⟩

section Sample

open scoped Sample
open Sample

/-- The transport of `alice` with her capability address. -/
def sampleTransport : WebRtcTransport :=
  ⟨.default, [(WebRtcAddr.capability alice).toCustomAddr]⟩

/-- The address of a dial of `alice`, and that of a session that `bob` asks for. -/
def dialedAddr : CustomAddr := (WebRtcAddr.session alice (.replicate 16 1)).toCustomAddr

def answeredAddr : CustomAddr := (WebRtcAddr.session alice (.replicate 16 2)).toCustomAddr

theorem advertised_iff_sample :
    ∃ final, Runs.run step (new sampleTransport)
        [.get dialedAddr, .set 0, .get answeredAddr, .get dialedAddr, .set 1] = some final ∧
      final.transport.localAddrs.Nodup ∧
      (∀ addr ∈ final.transport.localAddrs,
        final.Wanted sampleTransport.localAddrs addr) ∧
      ((∀ pre post t,
          [.get dialedAddr, .set 0, .get answeredAddr, .get dialedAddr, .set 1] = pre ++ post →
            Runs.run step (new sampleTransport) pre = some t →
              t.Advertises sampleTransport.localAddrs) ↔
        Runs.Guarded step SetsCurrent (new sampleTransport)
          [.get dialedAddr, .set 0, .get answeredAddr, .get dialedAddr, .set 1]) ∧
      (Runs.Guarded step SetsCurrent (new sampleTransport)
          [.get dialedAddr, .set 0, .get answeredAddr, .get dialedAddr, .set 1] →
        ∀ addr, addr ∈ final.transport.localAddrs ↔
          final.Wanted sampleTransport.localAddrs addr) ∧
      (Alone [.get dialedAddr, .set 0, .get answeredAddr, .get dialedAddr, .set 1] →
        Runs.Guarded step SetsCurrent (new sampleTransport)
            [.get dialedAddr, .set 0, .get answeredAddr, .get dialedAddr, .set 1] ∧
          final.Serial sampleTransport) :=
  ⟨_, rfl, advertised_iff (by decide) rfl⟩

/-- **A lost address.**  The dial and the answer get the list one after the other, and then each
sets what it got with its own address.  Both calls have returned, and the address of the dial is not
advertised. -/
theorem concurrent_advertise_loses_addr :
    ∃ final, Runs.run step (new sampleTransport)
        [.get dialedAddr, .get answeredAddr, .set 0, .set 1] = some final ∧
      final.calls = [.returned dialedAddr, .returned answeredAddr] ∧
      dialedAddr ∉ final.transport.localAddrs ∧
      ¬ final.Advertises sampleTransport.localAddrs := by
  have hrun : ∃ final, Runs.run step (new sampleTransport)
        [.get dialedAddr, .get answeredAddr, .set 0, .set 1] = some final ∧
      final.calls = [.returned dialedAddr, .returned answeredAddr] ∧
      dialedAddr ∉ final.transport.localAddrs := ⟨_, rfl, rfl, by decide⟩
  obtain ⟨final, hrun, hcalls, hlost⟩ := hrun
  refine ⟨final, hrun, hcalls, hlost, fun hall => hlost (hall dialedAddr (Or.inr ?_))⟩
  rw [hcalls]
  exact List.mem_cons_self

end Sample

end AdvertiseTrace

end IrohWebRtc
