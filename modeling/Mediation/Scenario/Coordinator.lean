import Mediation.Coordinator.Turn
import Mediation.RequestReply
import Mediation.Scenario.Registry

/-!
# Scripts for a coordinator

A script works on one coordinator. After each of its lines all tasks that can take a turn do so,
first come, first served, before the answer is taken; time passes only when the script says so.
-/

set_option autoImplicit false

namespace Mediation.Scenario

/-- One line of a coordinator script. -/
inductive CoordinatorCommand
  | start
  | stop
  | register (label : Label) (id : String) (timeout : Duration) (x : Exchange)
  | awaitReply (label : Label) (id : String) (timeout : Duration) (x : Exchange)
  | request (label : Label) (timeout : Option Duration) (x : Exchange)
  | step (label : Label) (timeout : Option Duration) (x : Exchange)
  | rekey (source target : String)
  | deliver (label : Label) (message : Message)
  | reply (label : Label) (message : Message)
  | sweep (now : Option Duration)
  | take (id : String)
  | contains (id : String)
  | publish (address : String)
  | askAddress (label : Label)
  | health
  | phase
  | config
  | describe
  | advance (time : Duration)
  | drop

/-- What a line of a coordinator script answers. -/
inductive CoordinatorAnswer
  | nothing
  | started
  | refused (error : LifecycleError)
  | flag (value : Bool)
  | count (value : Nat)
  | health (check : HealthCheck)
  | config (config : CoordinatorConfig)
  | text (value : String)

/-- What happens in the background of a coordinator script. -/
inductive CoordinatorEvent
  | report (report : Report)
  /-- A request/reply step handed its exchange back. -/
  | stepped (x : Exchange)

/-- The state of a coordinator script. -/
structure CoordinatorState where
  coordinator : Coordinator
  /-- The tasks of the script with their labels; a step comes with the exchange it was given. -/
  labels : List (TaskId × Label × Option Exchange)
  /-- What happened during the line. -/
  events : List (Label × Instant × CoordinatorEvent)

namespace CoordinatorState

/-- The number of turns after which a line is cut off. -/
def turnBound : Nat := 1000000

def start (config : CoordinatorConfig) (transport : Transport) (naming : Nat → String) :
    CoordinatorState :=
  { coordinator := Coordinator.create config transport naming, labels := [], events := [] }

def spawn (s : CoordinatorState) (label : Label) (given : Option Exchange) (job : Job) :
    CoordinatorState :=
  let (coordinator, task) := s.coordinator.spawn job
  { s with coordinator, labels := s.labels ++ [(task, label, given)] }

/-- The event of a task that has ended, if the script gave it a label. -/
def eventOf? (s : CoordinatorState) (ended : Ended) :
    Option (Label × Instant × CoordinatorEvent) :=
  match s.labels.find? fun entry => entry.1 = ended.task, ended.report with
  | none, _ => none
  | _, .panicked _ => none
  | some (_, label, some given), report =>
    some (label, ended.instant, .stepped (RequestReply.conclude given report))
  | some (_, label, none), report => some (label, ended.instant, .report report)

/-- Takes the events of the tasks that have ended. -/
def collect (s : CoordinatorState) : CoordinatorState :=
  let ended := s.coordinator.ended.reverse
  { s with
    coordinator := { s.coordinator with ended := [] }
    events := s.events ++ ended.filterMap s.eventOf? }

/-- Runs one line, without what follows in the background. -/
def apply (s : CoordinatorState) :
    CoordinatorCommand → Except Panic (CoordinatorState × CoordinatorAnswer)
  | .start =>
    .ok (match s.coordinator.start with
      | .ok coordinator => ({ s with coordinator }, .started)
      | .error error => (s, .refused error))
  | .stop => .ok (s.spawn "stop" none .stop, .nothing)
  | .register label id timeout x =>
    match s.coordinator.enrol x id timeout with
    | .error panic => .error panic
    | .ok (coordinator, ticket) =>
      .ok ({ s with coordinator }.spawn label none (.watch ticket), .nothing)
  | .awaitReply label id timeout x => .ok (s.spawn label none (.register x id timeout), .nothing)
  | .request label timeout x =>
    .ok (s.spawn label none (RequestReply.job s.coordinator.config timeout x), .nothing)
  | .step label timeout x =>
    .ok (s.spawn label (some x) (RequestReply.job s.coordinator.config timeout x), .nothing)
  | .rekey source target =>
    let (coordinator, moved) := s.coordinator.rekey source target
    .ok ({ s with coordinator }, .flag moved)
  | .deliver label message => .ok (s.spawn label none (.deliver message), .nothing)
  | .reply label message => .ok (s.spawn label none (.reply message), .nothing)
  | .sweep since =>
    match sweepTime s.coordinator.now since with
    | .error panic => .error panic
    | .ok instant =>
      let (coordinator, count) := s.coordinator.sweepAt instant false
      .ok ({ s with coordinator }, .count count)
  | .take id =>
    let (coordinator, found) := s.coordinator.take id
    .ok ({ s with coordinator }, .flag found)
  | .contains id => .ok (s, .flag (s.coordinator.registry.contains id))
  | .publish address => .ok ({ s with coordinator := s.coordinator.publish address }, .nothing)
  | .askAddress label => .ok (s.spawn label none (.query none), .nothing)
  | .health => .ok (s, .health s.coordinator.health)
  | .phase => .ok (s, .text s.coordinator.lifecycle.phase.name)
  | .config => .ok (s, .config s.coordinator.config)
  | .describe => .ok (s, .text s.coordinator.described)
  | .advance time =>
    let settled := s.coordinator.settle turnBound
    let target := Instant.tick (settled.now.wakeUp time)
    .ok ({ s with
      coordinator := settled.advanceTo turnBound target (target - settled.now + 1) }, .nothing)
  | .drop => .ok ({ s with coordinator := s.coordinator.drop }, .nothing)

/-- Runs one line and what follows in the background. -/
def step (s : CoordinatorState) (command : CoordinatorCommand) :
    Except Panic (CoordinatorState × CoordinatorAnswer) :=
  match { s with events := [] }.apply command with
  | .error panic => .error panic
  | .ok (s, answer) =>
    .ok ({ s with coordinator := s.coordinator.settle turnBound }.collect, answer)

end CoordinatorState

end Mediation.Scenario
