import Mediation.Coordinator.Config
import Mediation.Handoff
import Mediation.Health
import Mediation.Pinning
import Mediation.Registry
import Mediation.Tally
import Mediation.Transport

/-!
# The reply coordinator: its state

A coordinator sends requests over a transport and matches the replies that come back. Its work is
done by tasks: requests, readers of replies, the sweeper, the search for the reply address, stops.
A task runs in turns; between two turns it stands at a point where it waits, and `Job` says at which
one. `Coordinator` holds everything the tasks share. This module has the state and the moves from
which the turns are put together; none of them lets time pass.
-/

set_option autoImplicit false

namespace Mediation

abbrev TaskId := Nat

/-- What a task does next. -/
inductive Job
  /-- A request that needs the reply address; once it waits for it, until an instant. -/
  | request (x : Exchange) (timeout : Duration) (waiting : Option Instant)
  /-- A request that was sent elsewhere and is registered here. -/
  | register (x : Exchange) (id : String) (timeout : Duration)
  /-- A request whose transport took its time, and now answers. -/
  | sent (x : Exchange) (id : String) (timeout : Duration)
      (answer : Except Failure (Option String))
  /-- A registered request that waits for its verdict. -/
  | suspended (ticket : Ticket)
  /-- Someone who only wants to see the verdict. -/
  | watch (ticket : Ticket)
  /-- A reply that was handed in. -/
  | reply (message : Message)
  /-- A reply that the transport hands to whoever listens. -/
  | deliver (message : Message)
  /-- A reply on its way. -/
  | carried (message : Message) (due : Instant)
  /-- A reply that waits for its request. -/
  | early (message : Message) (id : String) (carried : Bool)
  /-- Someone who asks for the reply address. -/
  | query (waiting : Option Instant)
  /-- The sweeper; once it has started, with the instant of its next sweep. -/
  | sweep (next : Option Instant)
  /-- The search for the reply address; once it has started, with the instant of its end. -/
  | resolve (due : Option Instant)
  /-- A stop. -/
  | stop
  /-- A stop that waits for background tasks. -/
  | join (tasks : List TaskId) (deadline : Instant)

/-- How a task ended. -/
inductive Report
  /-- A request got its exchange back. -/
  | returned (x : Exchange)
  /-- A request was superseded. -/
  | failed (failure : Failure)
  /-- A verdict was seen. -/
  | seen (verdict : Verdict)
  /-- A reply was dealt with. -/
  | handled
  /-- A reply was delivered, if anyone listens. -/
  | delivered (listening : Bool)
  /-- The reply address, or why there is none. -/
  | address (answer : Except RuntimeError String)
  /-- A stop is over. -/
  | stopped (error : Option RuntimeError)
  /-- A background task is over. -/
  | over
  /-- A task panicked. -/
  | panicked (panic : Panic)

/-- A task that has ended. -/
structure Ended where
  task : TaskId
  instant : Instant
  report : Report

/-- A reply coordinator. -/
structure Coordinator where
  config : CoordinatorConfig
  /-- Makes the correlation ids of requests that bring none. -/
  naming : Nat → String
  now : Instant
  lifecycle : Lifecycle
  replyAddress : Option String
  registry : Registry
  transport : Transport
  /-- The two halves of every registration, by ticket. -/
  handoffs : List Handoff
  /-- The tasks that have not ended, in the order of their beginning. -/
  tasks : List (TaskId × Job)
  /-- The background tasks that a stop has to wait for. -/
  background : List TaskId
  /-- The tasks that can take a turn, in the order of their turns. -/
  ready : List TaskId
  /-- The tasks that have ended, the latest first. -/
  ended : List Ended
  /-- How many tasks have begun. -/
  begun : Nat
  /-- How many correlation ids have been made. -/
  named : Nat
  tally : Tally
  /-- Whether someone outside holds the coordinator. -/
  held : Bool
  /-- Nobody holds the coordinator any more, and it is gone. -/
  dissolved : Bool

namespace Coordinator

def componentName : String := "reply-coordinator"

/-- A coordinator that was never started. -/
def create (config : CoordinatorConfig) (transport : Transport) (naming : Nat → String) :
    Coordinator :=
  { config, naming, now := 0, lifecycle := Lifecycle.create componentName, replyAddress := none,
    registry := Registry.empty, transport, handoffs := [], tasks := [], background := [],
    ready := [], ended := [], begun := 0, named := 0, tally := Tally.empty, held := true,
    dissolved := false }

/-! ## Tasks -/

/-- What a task does next, if it has not ended. -/
def job? (c : Coordinator) (task : TaskId) : Option Job :=
  (c.tasks.find? fun entry => entry.1 = task).map (·.2)

/-- Lets tasks take a turn, after those that can already. -/
def wake (c : Coordinator) (tasks : List TaskId) : Coordinator :=
  { c with
    ready := tasks.foldl
      (fun ready task => if ready.contains task then ready else ready ++ [task]) c.ready }

/-- Lets the tasks take a turn that stand at certain jobs. -/
def wakeWhere (c : Coordinator) (waits : Job → Bool) : Coordinator :=
  c.wake ((c.tasks.filter fun entry => waits entry.2).map (·.1))

def spawn (c : Coordinator) (job : Job) : Coordinator × TaskId :=
  ({ c with tasks := c.tasks ++ [(c.begun, job)], ready := c.ready ++ [c.begun],
            begun := c.begun + 1 },
   c.begun)

/-- Begins a task that waits for its time. -/
def spawnAsleep (c : Coordinator) (job : Job) : Coordinator :=
  { c with tasks := c.tasks ++ [(c.begun, job)], begun := c.begun + 1 }

def park (c : Coordinator) (task : TaskId) (job : Job) : Coordinator :=
  { c with tasks := c.tasks.map fun entry => if entry.1 = task then (task, job) else entry }

/-- The coordinator without some tasks. -/
def discard (c : Coordinator) (gone : List TaskId) : Coordinator :=
  { c with
    tasks := c.tasks.filter fun entry => !gone.contains entry.1
    ready := c.ready.filter fun task => !gone.contains task }

def Job.joins (task : TaskId) : Job → Bool
  | .join tasks _ => tasks.contains task
  | _ => false

def finish (c : Coordinator) (task : TaskId) (report : Report) : Coordinator :=
  let without := c.discard [task]
  { without with ended := { task, instant := c.now, report } :: c.ended }.wakeWhere (Job.joins task)

/-! ## Verdicts -/

/-- Whether a job waits for the verdict on a ticket. -/
def Job.awaits (ticket : Ticket) : Job → Bool
  | .suspended other => other = ticket
  | .watch other => other = ticket
  | _ => false

/-- Changes the halves of a registration and lets whoever waits for the verdict look. -/
def settleTicket (c : Coordinator) (ticket : Ticket) (change : Handoff → Handoff) : Coordinator :=
  { c with handoffs := c.handoffs.modify ticket change }.wakeWhere (Job.awaits ticket)

def complete (c : Coordinator) (ticket : Ticket) (x : Exchange) (synchronous : Bool) :
    Coordinator :=
  c.settleTicket ticket fun handoff => (handoff.complete x synchronous).1

def supersede (c : Coordinator) (ticket : Ticket) : Coordinator :=
  c.settleTicket ticket Handoff.supersede

/-- Takes over what a placement in the registry has done. -/
def adopt (c : Coordinator) (placement : Registry.Placement) : Coordinator :=
  let placed := { c with registry := placement.registry }
  let told := placed.wake placement.woken
  match placement.displaced with
  | none => told
  | some entry => told.supersede entry.ticket

/-! ## Registering -/

/-- The failure of a request that comes while the coordinator does not run. -/
def rejection (c : Coordinator) : Failure :=
  .shutdown ("reply coordinator is " ++ c.lifecycle.phase.name)

/-- The panic of an instant that the clock cannot hold. -/
def beyondClock : Panic := .text Instant.overflowText

/-- The failure of a request that a stop found waiting. -/
def stranded (holder : Holder) : Failure :=
  .shutdown ("reply coordinator stopped while awaiting correlation id \x27" ++
    holder.correlationId ++ "\x27")

/-- Fails a request that a stop found waiting. -/
def strand (c : Coordinator) (holder : Holder) : Coordinator :=
  c.complete holder.ticket (holder.exchange.withFailure (stranded holder)) false

/-- Looks again whether the coordinator runs, now that a request is registered. If it does not, the
request is taken out and fails. -/
def confirm (c : Coordinator) (id : String) : Coordinator :=
  if c.lifecycle.runAllowed then c
  else match c.registry.remove id with
    | (registry, some holder) => { c with registry }.strand holder
    | (registry, none) => { c with registry }

/-- Registers a request and gives its ticket. A coordinator that does not run hands the exchange
back at once. -/
def enrol (c : Coordinator) (x : Exchange) (id : String) (timeout : Duration) :
    Except Panic (Coordinator × Ticket) :=
  let ticket := c.handoffs.length
  let opened := { c with handoffs := c.handoffs ++ [Handoff.fresh] }
  if !c.lifecycle.runAllowed then
    .ok (opened.complete ticket (x.withFailure c.rejection) true, ticket)
  else
    match c.registry.register? c.now id timeout x ticket with
    | none => .error beyondClock
    | some placement => .ok ((opened.adopt placement).confirm id, ticket)

def rekey (c : Coordinator) (source target : String) : Coordinator × Bool :=
  let (placement, moved) := c.registry.rekey source target
  (c.adopt placement, moved)

/-! ## Resolving -/

def latency (c : Coordinator) (holder : Holder) : Duration :=
  Duration.ofNanos (c.now - holder.createdAt)

/-- A reply under the id that a request was registered with first, if it was moved. -/
def restored (first : Option String) (reply : Message) : Message :=
  match first with
  | some id => reply.withHeader Message.correlationHeader id
  | none => reply

/-- The exchange of a request that got a reply: the reply becomes the outbound message, under the
id that the request was registered with first. If faults are transferred, a reply with a fault
becomes a failure instead. -/
def answered (c : Coordinator) (holder : Holder) (reply : Message) : Exchange :=
  let restored := restored holder.firstId reply
  let fault := if c.config.transferFaults then restored.header? Message.faultHeader else none
  match fault with
  | some fault => holder.exchange.withFailure (.remote fault)
  | none => { holder.exchange with outbound := some restored }

/-- The failure of a request whose deadline has passed, under the id it was registered with
first. -/
def expiry (holder : Holder) : Failure :=
  .timeout (holder.firstId.getD holder.correlationId) holder.timeout

/-- Hands a request that was taken out of the registry back to its requester. -/
def process (c : Coordinator) (holder : Holder) : Coordinator :=
  if holder.timedOut then
    c.complete holder.ticket (holder.exchange.withFailure (expiry holder)) false
  else match holder.reply with
    | some reply =>
      let counted := (c.tally.count .repliesMatched).observe .replyLatency (c.latency holder)
      { c with tally := counted }.complete holder.ticket (c.answered holder reply) false
    | none => c.complete holder.ticket holder.exchange false

/-- Takes out every request and fails it. -/
def drain (c : Coordinator) : Coordinator :=
  let (registry, holders) := c.registry.drain
  holders.foldl strand { c with registry }

/-- Takes out every request whose deadline is at or before an instant and times it out. The
sweeper counts them. -/
def sweepAt (c : Coordinator) (instant : Instant) (counting : Bool) : Coordinator × Nat :=
  let (registry, holders) := c.registry.sweep instant
  (holders.foldl
    (fun c holder =>
      let counted := if counting then { c with tally := c.tally.count .repliesTimedOut } else c
      counted.process holder)
    { c with registry },
   holders.length)

/-- Takes out the request under an id and hands it back as it is. -/
def take (c : Coordinator) (id : String) : Coordinator × Bool :=
  match c.registry.remove id with
  | (registry, some holder) => ({ c with registry }.process holder, true)
  | (registry, none) => ({ c with registry }, false)

/-! ## The reply address -/

/-- Whether a job waits for the reply address. -/
def Job.needsAddress : Job → Bool
  | .request _ _ _ => true
  | .query _ => true
  | _ => false

def publish (c : Coordinator) (address : String) : Coordinator :=
  { c with replyAddress := some address }.wakeWhere Job.needsAddress

/-! ## Starting -/

/-- Starts the coordinator: it listens for replies, looks for the reply address and sweeps. -/
def start (c : Coordinator) : Except LifecycleError Coordinator :=
  match c.lifecycle.start with
  | .error error => .error error
  | .ok lifecycle =>
    let listening := { c with lifecycle, transport := c.transport.listen }
    let (resolving, resolver) := listening.spawn (.resolve none)
    let (sweeping, sweeper) := resolving.spawn (.sweep none)
    .ok { sweeping with background := c.background ++ [resolver, sweeper] }

/-! ## Being held -/

/-- Whether a job keeps the coordinator. -/
def Job.holds : Job → Bool
  | .request _ _ _ | .register _ _ _ | .sent _ _ _ _ | .suspended _ | .reply _ | .early _ _ _
  | .query _ | .stop | .join _ _ => true
  | .watch _ | .deliver _ | .carried _ _ | .sweep _ | .resolve _ => false

/-- Whether a job listens for the shutdown signal. -/
def Job.isBackground : Job → Bool
  | .sweep _ | .resolve _ => true
  | _ => false

/-- A coordinator that neither someone outside nor a task holds is gone: every request it had is
superseded, and its background tasks see the signal. -/
def letGo (c : Coordinator) : Coordinator :=
  if c.held || c.dissolved || c.tasks.any (fun entry => Job.holds entry.2) then c
  else
    let tickets := c.registry.entries.map (·.ticket)
    let emptied := { c with dissolved := true, registry := { c.registry with entries := [] } }
    (tickets.foldl supersede emptied).wakeWhere Job.isBackground

/-- Nobody outside holds the coordinator any more. -/
def drop (c : Coordinator) : Coordinator := { c with held := false }.letGo

/-- Whether the shutdown signal can be seen. -/
def signalled (c : Coordinator) : Bool := c.lifecycle.signal || c.dissolved

/-! ## Views -/

/-- The number of outstanding requests. -/
def pending (c : Coordinator) : Nat := c.registry.size

def health (c : Coordinator) : HealthCheck :=
  let phase := c.lifecycle.phase
  let check := match Health.ofPhase phase with
    | .unhealthy => HealthCheck.unhealthy componentName ("Coordinator is " ++ phase.name)
    | .degraded => HealthCheck.degraded componentName "Coordinator is starting"
    | .healthy =>
      if c.replyAddress.isNone then
        HealthCheck.degraded componentName "Reply address not resolved"
      else HealthCheck.healthy componentName
  (check.withDetail "state" phase.name).withDetail "pending" (toString c.pending)

def described (c : Coordinator) : String :=
  Described.openRecord "ReplyCoordinator"
    [("config", c.config.described), ("state", c.lifecycle.phase.described),
     ("pending", toString c.pending)]

end Coordinator

end Mediation
