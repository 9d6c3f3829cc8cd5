import Mediation.Coordinator.Basic

/-!
# The reply coordinator: turns

`Coordinator.turn` lets one task run from the point where it waits to the next one. A task that has
nothing to do at its point stays there, so any task may be given a turn at any time: a run of the
coordinator is a list of choices of tasks and of instants (`Choice`, `Coordinator.run`), and every
order of turns is such a list.
-/

set_option autoImplicit false

namespace Mediation

namespace Coordinator

/-! ## Requests -/

/-- Collects the verdict on a request, if there is one. -/
def collect (c : Coordinator) (task : TaskId) (ticket : Ticket) : Coordinator :=
  let (handoff, sight) := (c.handoffs.getD ticket Handoff.fresh).look
  match sight with
  | .collected verdict =>
    let collected := { c with handoffs := c.handoffs.set ticket handoff }
    match verdict with
    | .resumed x _ => collected.finish task (.returned x)
    | .superseded => collected.finish task (.failed .superseded)
  | _ => c.park task (.suspended ticket)

/-- Collects the verdict that someone watches for, if there is one. -/
def see (c : Coordinator) (task : TaskId) (ticket : Ticket) : Coordinator :=
  let (handoff, sight) := (c.handoffs.getD ticket Handoff.fresh).look
  match sight with
  | .collected verdict =>
    { c with handoffs := c.handoffs.set ticket handoff }.finish task (.seen verdict)
  | _ => c

/-- Registers a request and waits for its verdict. -/
def registerAndWait (c : Coordinator) (task : TaskId) (x : Exchange) (id : String)
    (timeout : Duration) : Coordinator :=
  match c.enrol x id timeout with
  | .error panic => c.finish task (.panicked panic)
  | .ok (enrolled, ticket) => enrolled.collect task ticket

def carry (c : Coordinator) : Option (Message × Duration) → Coordinator
  | none => c
  | some (message, time) =>
    if time.isZero then (c.spawn (.deliver message)).1
    else c.spawnAsleep (.carried message (c.now.wakeUp time))

/-- The id that a request is sent under: the one it brings, or a new one. -/
def provisionalId (c : Coordinator) (x : Exchange) : Coordinator × String :=
  match x.inbound.correlationId? with
  | some id => (c, id)
  | none => ({ c with named := c.named + 1 }, c.naming c.named)

/-- What a request does with the answer of its transport: once it is accepted it is registered,
moved to the id that the transport has assigned, and waits for its verdict. -/
def settleSend (c : Coordinator) (task : TaskId) (x : Exchange) (provisional : String)
    (timeout : Duration) : Except Failure (Option String) → Coordinator
  | .error failure => c.finish task (.returned (x.withFailure failure))
  | .ok assigned =>
    match c.enrol x provisional timeout with
    | .error panic => c.finish task (.panicked panic)
    | .ok (enrolled, ticket) =>
      let moved := match assigned.filter fun id => id ≠ provisional with
        | some id => (enrolled.rekey provisional id).1
        | none => enrolled
      moved.collect task ticket

/-- Sends a request and goes on with the answer of the transport. -/
def sendRequest (c : Coordinator) (task : TaskId) (x : Exchange) (timeout : Duration)
    (replyTo : String) : Coordinator :=
  let (c, provisional) := c.provisionalId x
  let dispatch := c.transport.send x.inbound replyTo provisional
  let sent := { c with transport := dispatch.transport }.carry dispatch.reply
  sent.settleSend task x provisional timeout dispatch.answer

/-- The failure of a request that could not learn the reply address. -/
def unaddressed (c : Coordinator) : Failure :=
  .transport (RuntimeError.replyAddressTimeout c.config.replyAddressTimeout).text

/-- The instant until which someone waits for the reply address: `waiting` if the wait goes on
already. There is none if no timer can be set for it. -/
def addressDeadline? (c : Coordinator) : Option Instant → Option Instant
  | some deadline => some deadline
  | none => c.now.giveUp? c.config.replyAddressTimeout

/-- A request looks for the reply address. -/
def seekAddress (c : Coordinator) (task : TaskId) (x : Exchange) (timeout : Duration)
    (waiting : Option Instant) : Coordinator :=
  match c.replyAddress with
  | some address => c.sendRequest task x timeout address
  | none => match c.addressDeadline? waiting with
    | none => c.finish task (.panicked beyondClock)
    | some deadline =>
      if deadline ≤ c.now then c.finish task (.returned (x.withFailure c.unaddressed))
      else c.park task (.request x timeout (some deadline))

/-- Someone asks for the reply address. -/
def askAddress (c : Coordinator) (task : TaskId) (waiting : Option Instant) : Coordinator :=
  match c.replyAddress with
  | some address => c.finish task (.address (.ok address))
  | none => match c.addressDeadline? waiting with
    | none => c.finish task (.panicked beyondClock)
    | some deadline =>
      if deadline ≤ c.now then
        c.finish task (.address (.error (.replyAddressTimeout c.config.replyAddressTimeout)))
      else c.park task (.query (some deadline))

/-! ## Replies -/

def concludeReply (c : Coordinator) (task : TaskId) (carried : Bool) : Coordinator :=
  c.finish task (if carried then .delivered true else .handled)

def orphan (c : Coordinator) (task : TaskId) (carried : Bool) : Coordinator :=
  { c with tally := c.tally.count .repliesOrphaned }.concludeReply task carried

/-- Matches a reply if its request is registered; otherwise `unmatched` says what happens. -/
def matchReply (c : Coordinator) (task : TaskId) (id : String) (message : Message)
    (carried : Bool) (unmatched : Coordinator → Coordinator) : Coordinator :=
  match c.registry.resolve id message with
  | (registry, some holder) => ({ c with registry }.process holder).concludeReply task carried
  | (_, none) => unmatched c

/-- What follows when a wait for a registration has run. -/
def afterWait (c : Coordinator) (task : TaskId) (message : Message) (id : String)
    (carried : Bool) : Registry × Registry.WaitState → Coordinator
  | (registry, .parked) => { c with registry }.park task (.early message id carried)
  | (registry, .beyondClock) => { c with registry }.finish task (.panicked beyondClock)
  | (registry, .over true) =>
    { c with registry }.matchReply task id message carried fun c => c.orphan task carried
  | (registry, .over false) => { c with registry }.orphan task carried

/-- A reply arrives. Without a correlation id it is dropped; with one it is matched, or waits for
its request. -/
def receive (c : Coordinator) (task : TaskId) (message : Message) (carried : Bool) :
    Coordinator :=
  match message.correlationId? with
  | none => { c with tally := c.tally.count .repliesMalformed }.concludeReply task carried
  | some id =>
    c.matchReply task id message carried fun c =>
      let early := { c with tally := c.tally.count .repliesEarly }
      early.afterWait task message id carried
        (early.registry.beginWait early.now task id early.config.earlyReplyWait)

/-- The transport hands a reply to whoever listens. -/
def handOver (c : Coordinator) (task : TaskId) (message : Message) : Coordinator :=
  if !c.transport.listening then c.finish task (.delivered false)
  else if c.dissolved then c.finish task (.delivered true)
  else c.receive task message true

/-! ## Background tasks -/

/-- How late a sweep may come without putting off those after it. -/
def tolerance : Nat := 5 * nanosPerMilli

/-- The first sweep after `now` of a sweeper that was to sweep at `next` and then at every whole
number of intervals after that. If it has come too late, the interval begins anew. -/
def sweepAfter (next now interval : Nat) : Instant :=
  if next + tolerance < now then now + interval
  else next + ((now - next) / interval + 1) * interval

/-- The sweeper runs. It panics if there is no time between its sweeps, and it never sleeps longer
than the longest sleep. -/
def runSweeper (c : Coordinator) (task : TaskId) (next : Option Instant) : Coordinator :=
  let interval := (c.config.sweepInterval.shorter Instant.longestSleep).totalNanos
  match next with
  | none =>
    if interval = 0 then c.finish task (.panicked (.text "`period` must be non-zero."))
    else if c.signalled then c.finish task .over
    else c.park task (.sweep (some (c.now + interval)))
  | some next =>
    if next ≤ c.now ∧ !c.dissolved then
      let (swept, _) := c.sweepAt c.now true
      if swept.signalled then swept.finish task .over
      else swept.park task (.sweep (some (sweepAfter next c.now interval)))
    else if c.signalled then c.finish task .over
    else c

/-- The search for the reply address runs. -/
def runResolver (c : Coordinator) (task : TaskId) (due : Option Instant) : Coordinator :=
  let (time, found) := c.transport.resolution
  let due := due.getD (c.now.wakeUp time)
  if due ≤ c.now then
    let resolved := match found with
      | .ok address => if c.dissolved then c else c.publish address
      | .error _ => c
    resolved.finish task .over
  else if c.signalled then c.finish task .over
  else c.park task (.resolve (some due))

/-! ## Stopping -/

/-- A stop ends: background tasks that still run are given up, and every outstanding request
fails. -/
def concludeStop (c : Coordinator) (task : TaskId) (tasks : List TaskId) (joined : Bool) :
    Coordinator :=
  let quiet := if joined then c else c.discard tasks
  let drained := quiet.drain
  let stopped := { drained with lifecycle := drained.lifecycle.completeStop }
  stopped.finish task
    (.stopped (if joined then none else some (.shutdownTimeout tasks.length)))

/-- A stop looks whether its background tasks have ended. -/
def joinTasks (c : Coordinator) (task : TaskId) (tasks : List TaskId) (deadline : Instant) :
    Coordinator :=
  if tasks.all fun other => (c.job? other).isNone then c.concludeStop task tasks true
  else if deadline ≤ c.now then c.concludeStop task tasks false
  else c.park task (.join tasks deadline)

/-- A stop begins. It does nothing unless the coordinator runs. If it has to wait for background
tasks and there is no timer for the time of grace, it panics with the shutdown signal raised. -/
def beginStop (c : Coordinator) (task : TaskId) : Coordinator :=
  match c.lifecycle.beginStop? with
  | none => c.finish task (.stopped none)
  | some lifecycle =>
    let signalled := { c with lifecycle, background := [] }.wakeWhere Job.isBackground
    match c.now.giveUp? c.config.shutdownGrace with
    | some deadline => signalled.joinTasks task c.background deadline
    | none =>
      if c.background.all fun other => (c.job? other).isNone then
        signalled.concludeStop task c.background true
      else signalled.finish task (.panicked beyondClock)

/-! ## Turns -/

def runJob (c : Coordinator) (task : TaskId) : Job → Coordinator
  | .request x timeout waiting => c.seekAddress task x timeout waiting
  | .register x id timeout => c.registerAndWait task x id timeout
  | .sent x id timeout answer => c.settleSend task x id timeout answer
  | .suspended ticket => c.collect task ticket
  | .watch ticket => c.see task ticket
  | .reply message => c.receive task message false
  | .deliver message => c.handOver task message
  | .carried message due => if due ≤ c.now then c.handOver task message else c
  | .early message id carried =>
    c.afterWait task message id carried (c.registry.continueWait c.now task)
  | .query waiting => c.askAddress task waiting
  | .sweep next => c.runSweeper task next
  | .resolve due => c.runResolver task due
  | .stop => c.beginStop task
  | .join tasks deadline => c.joinTasks task tasks deadline

def turn (c : Coordinator) (task : TaskId) : Coordinator :=
  let called := { c with ready := c.ready.filter fun other => other ≠ task }
  match called.job? task with
  | none => called
  | some job => (called.runJob task job).letGo

/-! ## Time -/

/-- The instant at which a job has something to do, whatever happens before. -/
def Job.due? (registry : Registry) (task : TaskId) : Job → Option Instant
  | .request _ _ waiting => waiting
  | .query waiting => waiting
  | .carried _ due => some due
  | .early _ _ _ => (registry.waits.find? fun wait => wait.token = task).map (·.deadline)
  | .sweep next => next
  | .resolve due => due
  | .join _ deadline => some deadline
  | .register _ _ _ | .sent _ _ _ _ | .suspended _ | .watch _ | .reply _ | .deliver _
  | .stop => none

/-- The instants at which timers fire, each with its task. -/
def timers (c : Coordinator) : List (Instant × TaskId) :=
  c.tasks.filterMap fun (task, job) =>
    (Job.due? c.registry task job).map fun due => (Instant.tick due, task)

/-- The instant at which the next timer fires. -/
def nextDue? (c : Coordinator) : Option Instant := (c.timers.map (·.1)).min?

/-- The clock shows a later instant; the tasks whose timers have fired can take a turn. -/
def elapse (c : Coordinator) (instant : Instant) : Coordinator :=
  let later := { c with now := max c.now instant }
  let fired := later.timers.filter fun timer => decide (timer.1 ≤ later.now)
  later.wake ((fired.mergeSort fun first second => decide (first.1 ≤ second.1)).map (·.2))

/-! ## Runs -/

/-- One event of a run. -/
inductive Choice
  /-- A task takes a turn. -/
  | turn (task : TaskId)
  /-- A task begins. -/
  | spawn (job : Job)
  /-- A request is registered, and someone watches for its verdict. -/
  | register (x : Exchange) (id : String) (timeout : Duration)
  /-- The coordinator is started, if it can be. -/
  | start
  /-- A request is moved to another id. -/
  | rekey (source target : String)
  /-- The reply address is published. -/
  | publish (address : String)
  /-- The clock shows a later instant. -/
  | elapse (instant : Instant)

def step (c : Coordinator) : Choice → Coordinator
  | .turn task => c.turn task
  | .spawn job => (c.spawn job).1
  | .register x id timeout => match c.enrol x id timeout with
    | .ok (enrolled, ticket) => (enrolled.spawn (.watch ticket)).1
    | .error _ => c
  | .start => match c.start with
    | .ok started => started
    | .error _ => c
  | .rekey source target => (c.rekey source target).1
  | .publish address => c.publish address
  | .elapse instant => c.elapse instant

def run (c : Coordinator) (choices : List Choice) : Coordinator := choices.foldl step c

/-! ## The schedule -/

/-- Gives turns to tasks in the order in which they became ready, until none is ready. At most
`turns` turns are given. -/
def settle : Nat → Coordinator → Coordinator
  | 0, c => c
  | turns + 1, c =>
    match c.ready with
    | [] => c
    | task :: _ => settle turns (c.turn task)

/-- Lets time pass up to an instant, from one timer to the next; at each all tasks that can do so
run. `stops` bounds the number of timers. -/
def advanceTo (turns : Nat) (target : Instant) : Nat → Coordinator → Coordinator
  | 0, c => c
  | stops + 1, c =>
    match c.nextDue? with
    | some due =>
      if due ≤ target then advanceTo turns target stops ((c.elapse due).settle turns)
      else c.elapse target
    | none => c.elapse target

end Coordinator

end Mediation
