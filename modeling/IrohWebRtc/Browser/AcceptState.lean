import IrohWebRtc.Browser.Types

/-!
# Accept registrations

`browser_runtime/node/accept_state.rs`: for each ALPN the node serves, the queue of the
connections that wait for a caller of `accept_next`, or the callers that wait for a connection.

A waiting caller holds the receiving half of a oneshot channel; sending fails when that half was
dropped.  A waiter is the number of its channel and whether its receiver is still there.  A push
goes through the waiters from the front, passes over those that are gone, and puts the connection
into the queue when none is left; the queue is bounded, and a full one refuses.

That never both the queue and the waiters are nonempty is not built into the type.  It is proved
of the runs in `Browser.AcceptorRuns`.
-/

namespace IrohWebRtc

structure BrowserAcceptedConnection (E : Type*) where
  key : BrowserConnectionKey
  sessionKey : Option BrowserSessionKey
  remote : E
  alpn : String
  transport : BrowserResolvedTransport
  deriving DecidableEq

/-- The sending half of a oneshot channel. -/
structure AcceptWaiter where
  id : ℕ
  receiverAlive : Bool
  deriving DecidableEq, Repr

structure AcceptRegistrationState (E : Type*) where
  id : BrowserAcceptId
  alpn : String
  claimed : Bool
  queue : List (BrowserAcceptedConnection E)
  waiters : List AcceptWaiter
  capacity : ℕ
  deriving DecidableEq

namespace AcceptRegistrationState

variable {E : Type*}

def new (id : BrowserAcceptId) (alpn : String) (capacity : ℕ) : AcceptRegistrationState E :=
  ⟨id, alpn, false, [], [], capacity⟩

/-- The loop of `push_or_wake`: the first waiter whose receiver is there, and the waiters after
it. -/
def popLiveWaiter : List AcceptWaiter → Option (AcceptWaiter × List AcceptWaiter)
  | [] => none
  | waiter :: waiters =>
    if waiter.receiverAlive then some (waiter, waiters) else popLiveWaiter waiters

/-- `push_or_wake`: the waiter that got the connection, if one did. -/
def pushOrWake (registration : AcceptRegistrationState E)
    (connection : BrowserAcceptedConnection E) :
    BrowserRuntimeResult (Option AcceptWaiter) × AcceptRegistrationState E :=
  match popLiveWaiter registration.waiters with
  | some (waiter, waiters) => (.ok (some waiter), { registration with waiters := waiters })
  | none =>
    if registration.capacity ≤ registration.queue.length then
      (.error ⟨.webRtcFailed, "accept queue is full for ALPN " ++ debugText registration.alpn⟩,
        { registration with waiters := [] })
    else
      (.ok none, { registration with waiters := [], queue := registration.queue ++ [connection] })

/-- `close_acceptor`: the queue is dropped and every waiter is told that there is nothing more. -/
def closeAcceptor (registration : AcceptRegistrationState E) : AcceptRegistrationState E :=
  { registration with claimed := false, queue := [], waiters := [] }

/-- The caller that waits on channel `waiter` goes away. -/
def dropWaiter (waiter : ℕ) (registration : AcceptRegistrationState E) :
    AcceptRegistrationState E :=
  { registration with
    waiters := registration.waiters.map fun w =>
      if w.id = waiter then { w with receiverAlive := false } else w }

end AcceptRegistrationState

end IrohWebRtc
