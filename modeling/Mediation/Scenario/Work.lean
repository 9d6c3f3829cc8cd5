import Mediation.Delivery.Basic
import Mediation.RequestReply
import Mediation.Scenario.Action
import Mediation.Scenario.Stage

/-!
# Leaves of a delivery script

The work of a leaf is a list of deeds for each of its executions, a fixed number of failures before
it succeeds, nothing at all, or a request that waits for its reply. With it a stage becomes the
surroundings of deliveries (`Stage.surroundings`).
-/

set_option autoImplicit false

namespace Mediation.Scenario

/-- One thing that an execution of a leaf does. -/
inductive Deed
  | act (action : Action)
  | sleep (time : Duration)
  | noteTime
  | ask (handler : HandlerId) (command : HandlerCommand)

/-- The work of a leaf. -/
inductive Work
  /-- Every execution does the deeds of its run; those beyond the last run repeat it. -/
  | scripted (leaf : LeafId) (name : String) (runs : List (List Deed))
  /-- So many executions fail, and those after them succeed. Each takes a time, perhaps. -/
  | flaky (leaf : LeafId) (name : String) (failures : Nat) (failure : Failure)
    (time : Option Duration)
  /-- Lets the exchange pass. -/
  | probe (leaf : LeafId)
  /-- Sends the exchange as a request. -/
  | request (timeout : Option Duration)

namespace Work

def name : Work → String
  | scripted _ name _ => name
  | flaky _ name _ _ _ => name
  | probe _ => "thread-probe"
  | request _ => RequestReply.stepName

/-- The name of a flaky leaf that has none of its own. -/
def flakyName : String := "flaky"

/-- The number of failures of a flaky leaf that never succeeds. -/
def neverSucceeds : Nat := UInt32.size - 1

def toStep (work : Work) (immediate : Bool) : Step Work := .leaf work.name immediate work

end Work

namespace Stage

/-- How often a leaf has been executed. -/
def executionsOf (s : Stage) (leaf : LeafId) : Nat := s.executions.getD leaf 0

def execute (s : Stage) (leaf : LeafId) : Stage :=
  { s with executions := s.executions.modify leaf (· + 1) }

/-- Does the deeds of an execution in turn, up to the first that fails. -/
def perform (pinned : Bool) : List Deed → Exchange → Stage → Except Panic Exchange × Stage
  | [], x, s => (.ok x, s)
  | deed :: rest, x, s =>
    match deed with
    | .act action =>
      match action.apply pinned x with
      | .error panic => (.error panic, s)
      | .ok (x, .fails failure) => (.ok (x.withFailure failure), s)
      | .ok (x, _) => perform pinned rest x s
    | .sleep time => perform pinned rest x (s.sleep time)
    | .noteTime => perform pinned rest x (s.note (.time s.now))
    | .ask handler command =>
      match s.ask handler command with
      | (s, .error panic) => (.error panic, s)
      | (s, .ok answer) => perform pinned rest x (s.note (.asked command answer))

/-- The run of an execution, counted from one. -/
def runOf (runs : List (List Deed)) (execution : Nat) : List Deed :=
  runs.getD (min execution runs.length - 1) []

/-- What a success of a flaky leaf leaves as the outbound body. -/
def successText (name : String) (execution : Nat) : String :=
  name ++ " succeeded on execution " ++ toString execution

/-- The exchange after an execution of a flaky leaf. -/
def afterFlaky (name : String) (failures : Nat) (failure : Failure) (execution : Nat)
    (x : Exchange) : Exchange :=
  if execution ≤ failures then x.withFailure failure
  else x.mapOutbound fun message => message.withBody (.text (successText name execution))

/-- Sends an exchange as a request and waits for its end. -/
def request (s : Stage) (timeout : Option Duration) (x : Exchange) :
    Except Panic Exchange × Stage :=
  match s.coordinator with
  | none => (.ok x, s)
  | some coordinator =>
    match s.runTask coordinator (RequestReply.job coordinator.config timeout x) with
    | (s, some (.panicked panic)) => (.error panic, s)
    | (s, some report) => (.ok (RequestReply.conclude x report), s)
    | (s, none) => (.ok x, s)

def work (work : Work) (pinned : Bool) (x : Exchange) (s : Stage) :
    Except Panic Exchange × Stage :=
  match work with
  | .scripted leaf name runs =>
    let executed := s.execute leaf
    let execution := executed.executionsOf leaf
    perform pinned (runOf runs execution) x (executed.note (.ran name execution))
  | .flaky leaf name failures failure time =>
    let executed := s.execute leaf
    let execution := executed.executionsOf leaf
    (.ok (afterFlaky name failures failure execution x), executed.sleep (time.getD Duration.zero))
  | .probe leaf => (.ok x, s.execute leaf)
  | .request timeout => s.request timeout x

/-- Waits before a redelivery. The answer says whether the handler shuts down. -/
def pause (s : Stage) (handler : HandlerId) (time : Duration) : Bool × Stage :=
  waitUntil (fun s => (s.station handler).signalled) (some (s.now.wakeUp time)) patience s

/-- A stage as the surroundings of deliveries. Every wait is as long as it can be. -/
def surroundings : Surroundings Stage Work :=
  { perform := work
    enter := fun handler s => s.changeStation handler Station.enter
    leave := fun handler s => s.changeStation handler Station.leave
    signalled := fun handler s => (s.station handler).signalled
    scale := fun _ => default
    pause := fun handler time s => s.pause handler time
    clock := fun s => s.now }

end Stage

end Mediation.Scenario
