import Mediation.Scenario.Work

/-!
# Delivery scripts

A script has exchanges delivered to one tree of steps and gives commands to the handlers in it,
between deliveries or while one goes on. The coordinator, if there is one, is started before the
first line and stopped after the last.
-/

set_option autoImplicit false

namespace Mediation.Scenario

/-- Which exchange is delivered. -/
inductive Source
  | given (x : Exchange)
  /-- The one that the last delivery handed back. -/
  | again

/-- A delivery of a script. -/
structure DeliveryOrder where
  source : Source
  /-- What is done with the exchange first. -/
  preparation : List Action
  /-- The root runs by itself, without the bookkeeping of a delivery. -/
  direct : Bool
  /-- Commands that are given while the delivery goes on, each a time after its start. -/
  timeline : List (Duration × HandlerId × HandlerCommand)

/-- One line of a delivery script. -/
inductive DeliveryCommand
  | ask (handler : HandlerId) (command : HandlerCommand)
  | deliver (order : DeliveryOrder)

/-- A delivery that has ended. -/
structure Delivered where
  exchange : Exchange
  direct : Bool
  trace : List TraceEntry
  events : List TimelineEvent
  time : Duration

/-- What a line of a delivery script answers. -/
inductive DeliveryAnswer
  | answered (answer : HandlerAnswer)
  | delivered (delivered : Delivered)

/-- Why a script did not come to its end. -/
inductive Interruption
  /-- A panic that nothing contained. -/
  | panicked (panic : Panic)
  /-- There is no exchange to deliver again. -/
  | nothingDelivered
  /-- A guard reached the bound on its rounds. -/
  | unfinished

/-- The state of a delivery script. -/
structure DeliveryState where
  stage : Stage
  /-- What the last delivery handed back. -/
  last : Option Exchange

namespace DeliveryState

/-- The rounds that a guard can need: one more than the largest attempt count. -/
def roundBound : Nat := UInt32.size + 1

/-- The state before the first line. The coordinator starts. -/
def start (stage : Stage) : DeliveryState :=
  let started := match stage.coordinator with
    | none => none
    | some coordinator => match coordinator.start with
      | .ok started => some started
      | .error _ => some coordinator
  { stage := { stage with coordinator := started }, last := none }

/-- The exchange that a delivery begins with. -/
def prepared (s : DeliveryState) (order : DeliveryOrder) : Except Interruption Exchange :=
  let source := match order.source with
    | .given x => some x
    | .again => s.last
  match source with
  | none => .error .nothingDelivered
  | some x =>
    match prepare order.preparation x with
    | .ok x => .ok x
    | .error panic => .error (.panicked panic)

/-- The stage at the beginning of a delivery, with its timeline. -/
def opened (s : DeliveryState) (order : DeliveryOrder) : Stage :=
  { s.stage with
    cues := order.timeline.map fun (time, handler, command) =>
      { due := s.stage.now.wakeUp time, handler, command }
    events := []
    trace := [] }

def runRoot (root : Step Work) (direct : Bool) (x : Exchange) (stage : Stage) :
    Fate × Course Stage Work :=
  let course := Course.start stage
  if direct then root.run Stage.surroundings roundBound false x course
  else Delivery.deliver Stage.surroundings roundBound root false x course

/-- Delivers an exchange and waits for the end of the timeline. -/
def deliver (s : DeliveryState) (root : Step Work) (order : DeliveryOrder) :
    Except Interruption (DeliveryState × Delivered) :=
  match s.prepared order with
  | .error interruption => .error interruption
  | .ok x =>
    let stage := s.opened order
    match runRoot root order.direct x stage with
    | (.panicked panic, _) => .error (.panicked panic)
    | (.unfinished, _) => .error .unfinished
    | (.finished after, course) =>
      let counted := { course.world with tally := course.tally.append course.world.tally }
      let (_, quiet) := Stage.waitUntil Stage.isQuiet none Stage.patience counted
      .ok ({ stage := quiet, last := some after },
        { exchange := after
          direct := order.direct
          trace := quiet.trace.reverse
          events := quiet.events.reverse
          time := Duration.ofNanos (course.world.now - stage.now) })

def step (root : Step Work) (s : DeliveryState) :
    DeliveryCommand → Except Interruption (DeliveryState × DeliveryAnswer)
  | .ask handler command =>
    match s.stage.ask handler command with
    | (_, .error panic) => .error (.panicked panic)
    | (stage, .ok answer) => .ok ({ s with stage }, .answered answer)
  | .deliver order =>
    match s.deliver root order with
    | .ok (s, delivered) => .ok (s, .delivered delivered)
    | .error interruption => .error interruption

def run (root : Step Work) (s : DeliveryState) :
    List DeliveryCommand → Except Interruption (DeliveryState × List DeliveryAnswer)
  | [] => .ok (s, [])
  | command :: rest =>
    match s.step root command with
    | .error interruption => .error interruption
    | .ok (s, answer) =>
      match run root s rest with
      | .error interruption => .error interruption
      | .ok (s, answers) => .ok (s, answer :: answers)

end DeliveryState

end Mediation.Scenario
