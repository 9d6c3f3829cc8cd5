import Mediation.Coordinator.Turn
import Mediation.Station
import Mediation.Step

/-!
# The stage of a delivery script

A stage holds what a script has beside its steps: the handlers, a clock, perhaps a reply
coordinator, and a timeline of commands to the handlers. One delivery at a time goes on. Whenever it
waits, everything else runs until nothing is left to do at the present instant, and then the clock
jumps to the next instant at which something is due (`Stage.waitUntil`).
-/

set_option autoImplicit false

namespace Mediation.Scenario

/-! ## Commands -/

/-- Something asked of a handler. -/
inductive HandlerCommand
  | start
  | stop (grace : Duration)
  | health
  | inFlight
  | phase
  | policy

/-- What a handler answers. -/
inductive HandlerAnswer
  | done
  | refused (error : LifecycleError)
  | failed (error : RuntimeError)
  | health (check : HealthCheck)
  | count (value : Nat)
  | text (value : String)

/-- How a command stands. -/
inductive CommandState
  | answered (answer : HandlerAnswer)
  | waiting
  | panicked (panic : Panic)

def CommandState.ofStop : Station.StopState → CommandState
  | .over none => .answered .done
  | .over (some error) => .answered (.failed error)
  | .waiting => .waiting
  | .beyondClock => .panicked (.text Instant.overflowText)

/-- A command that waits for its time. -/
structure Cue where
  due : Instant
  handler : HandlerId
  command : HandlerCommand

/-- A command of the timeline that has been answered. -/
structure TimelineEvent where
  instant : Instant
  answer : HandlerAnswer
  /-- The number of guarded runs of the handler under way. -/
  inFlight : Nat

/-! ## Traces -/

abbrev LeafId := Nat

/-- What leaves leave behind while they run. -/
inductive TraceEntry
  /-- A leaf began an execution. -/
  | ran (name : String) (execution : Nat)
  /-- A leaf noted the time. -/
  | time (instant : Instant)
  /-- A leaf gave a command. -/
  | asked (command : HandlerCommand) (answer : HandlerAnswer)

/-! ## Stages -/

/-- What a script has beside its steps. -/
structure Stage where
  now : Instant
  coordinator : Option Coordinator
  /-- The handlers, by their identities. -/
  handlers : List (Policy × Station)
  /-- The commands of the timeline that wait for their time. -/
  cues : List Cue
  /-- The stops of the timeline that go on. -/
  stops : List (Token × HandlerId)
  /-- How many commands have been given. -/
  given : Nat
  /-- The answered commands of the timeline, the latest first. -/
  events : List TimelineEvent
  /-- The latest entry first. -/
  trace : List TraceEntry
  /-- How often leaves have been executed, by their identities. -/
  executions : List Nat
  tally : Tally

namespace Stage

/-- A stage on which nothing has happened, with so many leaves. -/
def create (coordinator : Option Coordinator) (policies : List Policy) (leaves : Nat) : Stage :=
  { now := 0, coordinator, handlers := policies.map fun policy => (policy, Station.create),
    cues := [], stops := [], given := 0, events := [], trace := [],
    executions := List.replicate leaves 0, tally := Tally.empty }

def note (s : Stage) (entry : TraceEntry) : Stage := { s with trace := entry :: s.trace }

/-! ## Handlers -/

def station (s : Stage) (handler : HandlerId) : Station :=
  (s.handlers[handler]?.map (·.2)).getD Station.create

def policy (s : Stage) (handler : HandlerId) : Policy :=
  (s.handlers[handler]?.map (·.1)).getD Policy.standard

def changeStation (s : Stage) (handler : HandlerId) (change : Station → Station) : Stage :=
  { s with
    handlers := s.handlers.modify handler fun (policy, station) => (policy, change station) }

/-- Gives a command. There is no answer yet if it is a stop that has to wait; the stop goes on under
the token. -/
def command (s : Stage) (handler : HandlerId) (token : Token) :
    HandlerCommand → Stage × CommandState
  | .start =>
    match (s.station handler).start with
    | .ok station => (s.changeStation handler fun _ => station, .answered .done)
    | .error error => (s, .answered (.refused error))
  | .stop grace =>
    let (station, state) := (s.station handler).beginStop s.now token grace
    (s.changeStation handler fun _ => station, CommandState.ofStop state)
  | .health => (s, .answered (.health (s.station handler).health))
  | .inFlight => (s, .answered (.count (s.station handler).inFlight))
  | .phase => (s, .answered (.text (s.station handler).lifecycle.phase.name))
  | .policy => (s, .answered (.text (s.policy handler).described))

def continueStop (s : Stage) (handler : HandlerId) (token : Token) : Stage × CommandState :=
  let (station, state) := (s.station handler).continueStop s.now token
  (s.changeStation handler fun _ => station, CommandState.ofStop state)

/-! ## The timeline -/

/-- Notes the answer to a command of the timeline. -/
def answered (s : Stage) (handler : HandlerId) (answer : HandlerAnswer) : Stage :=
  { s with
    events :=
      { instant := s.now, answer, inFlight := (s.station handler).inFlight } :: s.events }

/-- Gives a command of the timeline. One that panics has no answer. -/
def runCue (s : Stage) (cue : Cue) : Stage :=
  let token := s.given
  match { s with given := token + 1 }.command cue.handler token cue.command with
  | (s, .answered answer) => s.answered cue.handler answer
  | (s, .waiting) => { s with stops := s.stops ++ [(token, cue.handler)] }
  | (s, .panicked _) => s

def runStop (s : Stage) (stop : Token × HandlerId) : Stage :=
  let ended (s : Stage) : Stage :=
    { s with stops := s.stops.filter fun other => other.1 ≠ stop.1 }
  match s.continueStop stop.2 stop.1 with
  | (s, .answered answer) => (ended s).answered stop.2 answer
  | (s, .waiting) => s
  | (s, .panicked _) => ended s

/-- Gives the commands whose time has come. -/
def runCues (s : Stage) : Stage :=
  let (due, later) := s.cues.partition fun cue => decide (Instant.tick cue.due ≤ s.now)
  let ordered := due.mergeSort fun first second => decide (first.due ≤ second.due)
  ordered.foldl runCue { s with cues := later }

/-- Lets the stops of the timeline go on. -/
def runStops (s : Stage) : Stage := s.stops.foldl runStop s

/-- Whether every command of the timeline has been answered. -/
def isQuiet (s : Stage) : Bool := s.cues.isEmpty && s.stops.isEmpty

/-! ## Waiting -/

/-- The number of turns, and of timers, after which a wait is cut off. -/
def patience : Nat := UInt64.size

/-- Everything but the delivery runs until nothing is left to do at the present instant. -/
def settle (s : Stage) : Stage :=
  let settled := { s with coordinator := s.coordinator.map (Coordinator.settle patience) }
  settled.runCues.runStops

/-- The instants at which something is due. -/
def dues (s : Stage) : List Instant :=
  (s.coordinator.bind Coordinator.nextDue?).toList ++
    s.cues.map (fun cue => Instant.tick cue.due) ++
    s.handlers.flatMap fun (_, station) =>
      station.stops.map fun stop => Instant.tick stop.deadline

def elapse (s : Stage) (instant : Instant) : Stage :=
  { s with
    now := max s.now instant
    coordinator := s.coordinator.map fun coordinator => coordinator.elapse instant }

/-- Waits until something holds, or until a deadline if there is one. The answer says whether it
holds. At most `timers` timers fire meanwhile. -/
def waitUntil (holds : Stage → Bool) (deadline : Option Instant) : Nat → Stage → Bool × Stage
  | 0, s => (false, s)
  | timers + 1, s =>
    let settled := s.settle
    if holds settled then (true, settled)
    else match (settled.dues ++ (deadline.map Instant.tick).toList).min? with
      | none => (false, settled)
      | some due =>
        let later := settled.elapse due
        if deadline.any fun deadline => decide (Instant.tick deadline ≤ due) then (false, later)
        else waitUntil holds deadline timers later

def sleep (s : Stage) (time : Duration) : Stage :=
  if time.isZero then s
  else (waitUntil (fun _ => false) (some (s.now.wakeUp time)) patience s).2

/-- Gives a command and waits for the answer. -/
def ask (s : Stage) (handler : HandlerId) (command : HandlerCommand) :
    Stage × Except Panic HandlerAnswer :=
  let token := s.given
  match { s with given := token + 1 }.command handler token command with
  | (s, .answered answer) => (s, .ok answer)
  | (s, .panicked panic) => (s, .error panic)
  | (s, .waiting) =>
    let stop := (s.station handler).stops.find? fun stop => stop.token = token
    let deadline := stop.map (·.deadline)
    let isOver (s : Stage) : Bool :=
      match (s.continueStop handler token).2 with
      | .waiting => false
      | _ => true
    match (waitUntil isOver deadline patience s).2.continueStop handler token with
    | (s, .answered answer) => (s, .ok answer)
    | (s, .waiting) => (s, .ok .done)
    | (s, .panicked panic) => (s, .error panic)

/-! ## The coordinator -/

/-- Begins a task of the coordinator, which takes its first turn at once, and waits until it has
ended. -/
def runTask (s : Stage) (coordinator : Coordinator) (job : Job) : Stage × Option Report :=
  let (coordinator, task) := coordinator.spawn job
  let hasEnded (ended : Ended) : Bool := ended.task = task
  let isOver (s : Stage) : Bool := s.coordinator.any fun c => c.ended.any hasEnded
  let (_, later) :=
    waitUntil isOver none patience { s with coordinator := some (coordinator.turn task) }
  (later, (later.coordinator.bind fun c => c.ended.find? hasEnded).map (·.report))

def stopCoordinator (s : Stage) : Stage × Except Panic (Option RuntimeError) :=
  match s.coordinator with
  | none => (s, .ok none)
  | some coordinator =>
    match s.runTask coordinator .stop with
    | (s, some (.stopped error)) => (s, .ok error)
    | (s, some (.panicked panic)) => (s, .error panic)
    | (s, _) => (s, .ok none)

end Stage

end Mediation.Scenario
