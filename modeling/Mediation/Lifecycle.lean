import Mediation.Text.Described

/-!
# Lifecycles

A component is created, started and stopped, and may be started again. Only two transitions can be
refused: the two halves of a start. The shutdown signal is raised when a stop begins and lowered
when a start begins; everyone who listens sees the same signal.
-/

set_option autoImplicit false

namespace Mediation

/-- Where a component stands. -/
inductive Phase
  | created
  | starting
  | started
  | stopping
  | stopped
deriving DecidableEq, Repr, Inhabited

namespace Phase

def all : List Phase := [created, starting, started, stopping, stopped]

def name : Phase → String
  | created => "created"
  | starting => "starting"
  | started => "started"
  | stopping => "stopping"
  | stopped => "stopped"

/-- The name of a phase for developers. -/
def described : Phase → String
  | created => "Created"
  | starting => "Starting"
  | started => "Started"
  | stopping => "Stopping"
  | stopped => "Stopped"

def ofName? (name : String) : Option Phase := all.find? fun phase => phase.name = name

def runAllowed : Phase → Bool
  | starting | started => true
  | _ => false

end Phase

/-- A transition that a component refused. -/
structure LifecycleError where
  component : String
  source : Phase
  target : Phase
deriving DecidableEq, Repr

namespace LifecycleError

def text (error : LifecycleError) : String :=
  error.component ++ ": cannot go from " ++ error.source.name ++ " to " ++ error.target.name

def described (error : LifecycleError) : String :=
  Described.record "LifecycleError"
    [("component", Quoted.quote error.component), ("from", error.source.described),
     ("to", error.target.described)]

end LifecycleError

/-- Why a component could not do what it was asked for. -/
inductive RuntimeError
  /-- A transition was refused. -/
  | lifecycle (error : LifecycleError)
  /-- A stop gave up waiting for this many tasks. -/
  | shutdownTimeout (remaining : Nat)
  /-- The reply address was not known in time. -/
  | replyAddressTimeout (limit : Duration)
deriving DecidableEq, Repr

namespace RuntimeError

def text : RuntimeError → String
  | lifecycle error => error.text
  | shutdownTimeout remaining =>
    "Shutdown timed out with " ++ toString remaining ++ " tasks still running"
  | replyAddressTimeout limit => "Reply address was not resolved within " ++ limit.text

def described : RuntimeError → String
  | lifecycle error => Described.tagged "Lifecycle" error.described
  | shutdownTimeout remaining => Described.tagged "ShutdownTimeout" (toString remaining)
  | replyAddressTimeout limit => Described.tagged "ReplyAddressTimeout" limit.text

def kind : RuntimeError → String
  | lifecycle _ => "Lifecycle"
  | shutdownTimeout _ => "ShutdownTimeout"
  | replyAddressTimeout _ => "ReplyAddressTimeout"

end RuntimeError

/-- The lifecycle of a component. -/
structure Lifecycle where
  component : String
  phase : Phase
  /-- The shutdown signal. -/
  signal : Bool
deriving DecidableEq, Repr

namespace Lifecycle

/-- A component that was never started. -/
def create (component : String) : Lifecycle := { component, phase := .created, signal := false }

def runAllowed (lifecycle : Lifecycle) : Bool := lifecycle.phase.runAllowed

/-- Whether the component is fully started. -/
def isStarted (lifecycle : Lifecycle) : Bool := lifecycle.phase = .started

def refusal (lifecycle : Lifecycle) (target : Phase) : LifecycleError :=
  { component := lifecycle.component, source := lifecycle.phase, target }

/-- Begins a start, from created or stopped. -/
def beginStart (lifecycle : Lifecycle) : Except LifecycleError Lifecycle :=
  match lifecycle.phase with
  | .created | .stopped => .ok { lifecycle with phase := .starting, signal := false }
  | _ => .error (lifecycle.refusal .starting)

def completeStart (lifecycle : Lifecycle) : Except LifecycleError Lifecycle :=
  match lifecycle.phase with
  | .starting => .ok { lifecycle with phase := .started }
  | _ => .error (lifecycle.refusal .started)

def abortStart (lifecycle : Lifecycle) : Lifecycle :=
  { lifecycle with phase := .stopped, signal := true }

/-- Begins a stop, if the component runs. -/
def beginStop? (lifecycle : Lifecycle) : Option Lifecycle :=
  if lifecycle.runAllowed then some { lifecycle with phase := .stopping, signal := true } else none

def completeStop (lifecycle : Lifecycle) : Lifecycle := { lifecycle with phase := .stopped }

/-- The two halves of a start with nothing between them. -/
def start (lifecycle : Lifecycle) : Except LifecycleError Lifecycle :=
  match lifecycle.beginStart with
  | .ok begun => begun.completeStart
  | .error error => .error error

end Lifecycle

end Mediation
