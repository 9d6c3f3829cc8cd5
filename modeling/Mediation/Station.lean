import Mediation.Health
import Mediation.Registry

/-!
# The stations of error handlers

An error handler is at work in many places at once. Its station has what they share: its lifecycle,
the number of guarded runs that are under way, and the stops that wait for these to end. A stop
raises the shutdown signal and then waits until no run is under way, at most for a time of grace. It
is told when the last run leaves, and looks again.
-/

set_option autoImplicit false

namespace Mediation

/-- A stop that waits for the runs under way. -/
structure StopWait where
  token : Token
  deadline : Instant
  /-- The last run left since the stop last looked. -/
  woken : Bool
deriving DecidableEq, Repr

/-- What the guards of one handler share. -/
structure Station where
  lifecycle : Lifecycle
  /-- The number of guarded runs under way. -/
  inFlight : Nat
  stops : List StopWait
deriving DecidableEq, Repr

namespace Station

def componentName : String := "error-handler"

/-- A handler that was never started; it accepts work all the same. -/
def create : Station :=
  { lifecycle := Lifecycle.create componentName, inFlight := 0, stops := [] }

instance : Inhabited Station := ⟨create⟩

def enter (station : Station) : Station := { station with inFlight := station.inFlight + 1 }

/-- A guarded run ends. Stops are told when it was the last. -/
def leave (station : Station) : Station :=
  if station.inFlight = 1 then
    { station with
      inFlight := 0
      stops := station.stops.map fun stop => { stop with woken := true } }
  else { station with inFlight := station.inFlight - 1 }

/-- Whether the shutdown signal is raised. -/
def signalled (station : Station) : Bool := station.lifecycle.signal

def start (station : Station) : Except LifecycleError Station :=
  match station.lifecycle.start with
  | .ok lifecycle => .ok { station with lifecycle }
  | .error error => .error error

/-! ## Stopping -/

/-- How a stop stands after it has run. -/
inductive StopState
  | over (error : Option RuntimeError)
  | waiting
  /-- There is no timer for its time of grace. -/
  | beyondClock
deriving DecidableEq, Repr

def withoutStop (station : Station) (token : Token) : Station :=
  { station with stops := station.stops.filter fun stop => stop.token ≠ token }

/-- A stop ends; the handler is stopped whether or not runs are under way. -/
def concludeStop (station : Station) (token : Token) (drained : Bool) : Station × StopState :=
  let stopped :=
    { station.withoutStop token with lifecycle := station.lifecycle.completeStop }
  (stopped, .over (if drained then none else some (.shutdownTimeout station.inFlight)))

/-- A stop looks whether runs are under way, and waits if there is time left. -/
def lookIdle (station : Station) (now : Instant) (token : Token) (deadline : Instant) :
    Station × StopState :=
  if station.inFlight = 0 then station.concludeStop token true
  else if deadline ≤ now then station.concludeStop token false
  else
    let others := station.withoutStop token
    ({ others with stops := others.stops ++ [{ token, deadline, woken := false }] }, .waiting)

/-- A stop begins. A handler that was never started is brought to starting first, so that the
signal is raised in any case; a handler that is not running is left as it is. If runs are under way
and there is no timer for the time of grace, the stop breaks off with the signal raised. -/
def beginStop (station : Station) (now : Instant) (token : Token) (grace : Duration) :
    Station × StopState :=
  let lifecycle := match station.lifecycle.phase with
    | .created => { station.lifecycle with phase := Phase.starting, signal := false }
    | _ => station.lifecycle
  match lifecycle.beginStop? with
  | none => (station, .over none)
  | some lifecycle =>
    let stopping := { station with lifecycle }
    match now.giveUp? grace with
    | some deadline => stopping.lookIdle now token deadline
    | none =>
      if station.inFlight = 0 then stopping.concludeStop token true else (stopping, .beyondClock)

/-- A stop runs again: it looks if it was told to, and ends if its time is over. -/
def continueStop (station : Station) (now : Instant) (token : Token) : Station × StopState :=
  match station.stops.find? fun stop => stop.token = token with
  | none => (station, .waiting)
  | some stop =>
    if stop.woken then station.lookIdle now token stop.deadline
    else if stop.deadline ≤ now then station.concludeStop token false
    else (station, .waiting)

/-! ## Views -/

def health (station : Station) : HealthCheck :=
  let phase := station.lifecycle.phase
  let check := match phase with
    | .created | .started => HealthCheck.healthy componentName
    | .starting => HealthCheck.degraded componentName "Handler is starting"
    | .stopping | .stopped => HealthCheck.unhealthy componentName ("Handler is " ++ phase.name)
  (check.withDetail "state" phase.name).withDetail "in_flight" (toString station.inFlight)

end Station

end Mediation
