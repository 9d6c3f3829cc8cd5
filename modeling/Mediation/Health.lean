import Mediation.Lifecycle

/-!
# Health

A check says how one component fares, with details; a report is as bad as the worst of its checks.
-/

set_option autoImplicit false

namespace Mediation

/-- How a component fares, from best to worst. -/
inductive Health
  | healthy
  | degraded
  | unhealthy
deriving DecidableEq, Repr, Inhabited

namespace Health

def all : List Health := [healthy, degraded, unhealthy]

def name : Health → String
  | healthy => "healthy"
  | degraded => "degraded"
  | unhealthy => "unhealthy"

/-- The name of a grade for developers. -/
def described : Health → String
  | healthy => "Healthy"
  | degraded => "Degraded"
  | unhealthy => "Unhealthy"

def ofName? (name : String) : Option Health := all.find? fun grade => grade.name = name

/-- The rank of a grade, the worst highest. -/
def rank : Health → Nat
  | healthy => 0
  | degraded => 1
  | unhealthy => 2

def worse (first second : Health) : Health := if first.rank < second.rank then second else first

/-- A component is healthy once started, degraded while it starts, and unhealthy otherwise. -/
def ofPhase : Phase → Health
  | .started => healthy
  | .starting => degraded
  | _ => unhealthy

end Health

/-- How one component fares. -/
structure HealthCheck where
  component : String
  status : Health
  message : Option String
  details : List (String × String)
deriving DecidableEq, Repr

namespace HealthCheck

def healthy (component : String) : HealthCheck :=
  { component, status := .healthy, message := none, details := [] }

def degraded (component message : String) : HealthCheck :=
  { component, status := .degraded, message := some message, details := [] }

def unhealthy (component message : String) : HealthCheck :=
  { component, status := .unhealthy, message := some message, details := [] }

def withDetail (check : HealthCheck) (key value : String) : HealthCheck :=
  { check with details := check.details ++ [(key, value)] }

def detail? (check : HealthCheck) (key : String) : Option String :=
  (check.details.find? fun entry => entry.1 = key).map (·.2)

end HealthCheck

/-- How the engine fares. -/
structure HealthReport where
  status : Health
  checks : List HealthCheck

namespace HealthReport

def ofChecks (checks : List HealthCheck) : HealthReport :=
  { status := checks.foldl (fun worst check => worst.worse check.status) .healthy, checks }

def check? (report : HealthReport) (component : String) : Option HealthCheck :=
  report.checks.find? fun check => check.component = component

end HealthReport

end Mediation
