import Mediation.Exchange.Basic

/-!
# The registry of outstanding requests

A request waits in the registry under its correlation id until it is taken out, by the reply that
carries its id, by the sweep that finds its deadline passed, or by hand. Each registration has a
ticket of its own; taking the request out gives a `Holder` with that ticket. Registering or moving
a request onto an id that is in use displaces the request there.

A reply may come before its request. Its reader then waits, until a deadline of its own, to be told
that the id has been registered. All waits for one id share a notifier, which exists as long as one
of them goes on.
-/

set_option autoImplicit false

namespace Mediation

abbrev Ticket := Nat

/-- The identity of whoever waits for a registration. -/
abbrev Token := Nat

/-- A request that waits for its reply. -/
structure Pending where
  /-- The id under which the request can be found. -/
  correlationId : String
  /-- The id under which it was registered first, if it has moved since. -/
  firstId : Option String
  createdAt : Instant
  deadline : Instant
  timeout : Duration
  exchange : Exchange
  ticket : Ticket

/-- A request that has been taken out of the registry. -/
structure Holder where
  correlationId : String
  firstId : Option String
  timedOut : Bool
  reply : Option Message
  timeout : Duration
  createdAt : Instant
  exchange : Exchange
  ticket : Ticket

namespace Pending

/-- The request, taken out with a reply or without one. -/
def release (pending : Pending) (reply : Option Message) (timedOut : Bool) : Holder :=
  { correlationId := pending.correlationId, firstId := pending.firstId, timedOut, reply,
    timeout := pending.timeout, createdAt := pending.createdAt, exchange := pending.exchange,
    ticket := pending.ticket }

/-- The request under another id; its first id is remembered. -/
def moveTo (pending : Pending) (id : String) : Pending :=
  { pending with
    correlationId := id
    firstId := some (pending.firstId.getD pending.correlationId) }

end Pending

/-- A wait for a registration. -/
structure Wait where
  token : Token
  id : String
  deadline : Instant
  /-- The id was registered since the wait last looked. -/
  notified : Bool
deriving DecidableEq, Repr

/-- The outstanding requests and the waits for registrations. -/
structure Registry where
  entries : List Pending
  /-- The number of requests that was last reported. -/
  gauge : Nat
  /-- The ids that are waited for, with the number of waits that share the notifier. -/
  notifiers : List (String × Nat)
  /-- The waits that go on, in the order in which they last began to listen. -/
  waits : List Wait

namespace Registry

def empty : Registry := { entries := [], gauge := 0, notifiers := [], waits := [] }

instance : Inhabited Registry := ⟨empty⟩

/-- The number of outstanding requests. -/
def size (registry : Registry) : Nat := registry.entries.length

/-- The request registered under an id. -/
def find? (registry : Registry) (id : String) : Option Pending :=
  registry.entries.find? fun entry => entry.correlationId = id

/-- Whether a request is registered under an id. -/
def contains (registry : Registry) (id : String) : Bool := (registry.find? id).isSome

/-- The registry without the request under an id. -/
def without (registry : Registry) (id : String) : Registry :=
  { registry with entries := registry.entries.filter fun entry => entry.correlationId ≠ id }

def report (registry : Registry) : Registry := { registry with gauge := registry.size }

/-- Whoever listens for an id and has not been notified yet, in order. -/
def listeners (registry : Registry) (id : String) : List Token :=
  (registry.waits.filter fun wait => wait.id = id && !wait.notified).map (·.token)

def notify (registry : Registry) (id : String) : Registry :=
  { registry with
    waits := registry.waits.map fun wait =>
      if wait.id = id then { wait with notified := true } else wait }

/-- What putting a request under an id has done. -/
structure Placement where
  registry : Registry
  /-- The request that was registered under the id before. -/
  displaced : Option Pending
  /-- The waits that were notified. -/
  woken : List Token

/-- Puts a request under its id, in place of any other, and notifies the waits for that id. -/
def place (registry : Registry) (entry : Pending) : Placement :=
  let cleared := registry.without entry.correlationId
  let placed := { cleared with entries := cleared.entries ++ [entry] }
  { registry := placed.notify entry.correlationId
    displaced := registry.find? entry.correlationId
    woken := registry.listeners entry.correlationId }

/-- Registers a request. Nothing happens if the clock cannot hold its deadline. -/
def register? (registry : Registry) (now : Instant) (id : String) (timeout : Duration)
    (exchange : Exchange) (ticket : Ticket) : Option Placement :=
  (now.after? timeout).map fun deadline =>
    let placement := registry.place
      { correlationId := id, firstId := none, createdAt := now, deadline, timeout, exchange,
        ticket }
    { placement with registry := placement.registry.report }

/-- Moves the request under `source` to `target`. The number of requests is not reported. The
answer says whether there was such a request. -/
def rekey (registry : Registry) (source target : String) : Placement × Bool :=
  let unchanged : Placement := { registry, displaced := none, woken := [] }
  match registry.find? source with
  | none => (unchanged, false)
  | some entry =>
    if source = target then (unchanged, true)
    else ((registry.without source).place (entry.moveTo target), true)

/-- Takes out the request that a reply answers. -/
def resolve (registry : Registry) (id : String) (reply : Message) : Registry × Option Holder :=
  match registry.find? id with
  | none => (registry, none)
  | some entry => ((registry.without id).report, some (entry.release (some reply) false))

def remove (registry : Registry) (id : String) : Registry × Option Holder :=
  match registry.find? id with
  | none => (registry, none)
  | some entry => ((registry.without id).report, some (entry.release none false))

/-- Takes out every request whose deadline is at or before `now`. The number of requests is
reported only if there were some. -/
def sweep (registry : Registry) (now : Instant) : Registry × List Holder :=
  let (expired, kept) := registry.entries.partition fun entry => decide (entry.deadline ≤ now)
  let swept := { registry with entries := kept }
  (if expired.isEmpty then swept else swept.report,
   expired.map fun entry => entry.release none true)

def drain (registry : Registry) : Registry × List Holder :=
  ({ registry with entries := [] }.report,
   registry.entries.map fun entry => entry.release none false)

/-! ## Waiting for a registration -/

/-- How a wait stands after it has run. -/
inductive WaitState
  /-- It has ended; the answer says whether the id is registered. -/
  | over (registered : Bool)
  /-- It goes on. -/
  | parked
  /-- The clock cannot hold its deadline, or has no timer for it. -/
  | beyondClock
deriving DecidableEq, Repr

/-- One more wait shares the notifier of an id, which is made if there is none. -/
def joinNotifier (registry : Registry) (id : String) : Registry :=
  if registry.notifiers.any fun entry => entry.1 = id then
    { registry with
      notifiers := registry.notifiers.map fun (other, count) =>
        if other = id then (other, count + 1) else (other, count) }
  else { registry with notifiers := registry.notifiers ++ [(id, 1)] }

/-- One wait fewer shares the notifier of an id. -/
def releaseNotifier (registry : Registry) (id : String) : Registry :=
  { registry with
    notifiers := registry.notifiers.map fun (other, count) =>
      if other = id then (other, count - 1) else (other, count) }

/-- The notifier of an id goes if no wait shares it. -/
def clearNotifier (registry : Registry) (id : String) : Registry :=
  { registry with
    notifiers := registry.notifiers.filter fun (other, count) => other ≠ id || count ≠ 0 }

def withoutWait (registry : Registry) (token : Token) : Registry :=
  { registry with waits := registry.waits.filter fun wait => wait.token ≠ token }

def endWait (registry : Registry) (token : Token) (id : String) : Registry × WaitState :=
  (((registry.withoutWait token).releaseNotifier id).clearNotifier id,
   .over (registry.contains id))

/-- Looks whether an id is registered, and listens from here on if it is not and there is time
left. -/
def listen (registry : Registry) (now : Instant) (token : Token) (id : String)
    (deadline : Instant) : Registry × WaitState :=
  if registry.contains id || decide (deadline ≤ now) then registry.endWait token id
  else
    let others := registry.withoutWait token
    ({ others with waits := others.waits ++ [{ token, id, deadline, notified := false }] },
     .parked)

/-- Begins a wait of at most `most` for the registration of an id. A timer is set only if the id is
not registered yet. -/
def beginWait (registry : Registry) (now : Instant) (token : Token) (id : String)
    (most : Duration) : Registry × WaitState :=
  let joined := registry.joinNotifier id
  match now.after? most with
  | none => (joined.releaseNotifier id, .beyondClock)
  | some deadline =>
    if registry.contains id then joined.endWait token id
    else match deadline.timer? with
      | none => (joined.releaseNotifier id, .beyondClock)
      | some due => joined.listen now token id due

/-- Lets a wait run. It looks again if it was notified, and ends if its deadline has come. -/
def continueWait (registry : Registry) (now : Instant) (token : Token) : Registry × WaitState :=
  match registry.waits.find? fun wait => wait.token = token with
  | none => (registry, .parked)
  | some wait =>
    if wait.notified then registry.listen now token wait.id wait.deadline
    else if wait.deadline ≤ now then registry.endWait token wait.id
    else (registry, .parked)

end Registry

end Mediation
