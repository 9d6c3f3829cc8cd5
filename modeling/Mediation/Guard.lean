import Mediation.Station
import Mediation.Step

/-!
# Guarded runs

A guard runs its region, and depending on how the exchange comes back runs it again, takes a handled
path, or leaves. `Guard.afterRegion` decides which of these comes next, and the other functions of
this module say how the exchange goes on from there. A guard counts its redeliveries from the
attempt count that the exchange had when it entered (`entry`), so each guard has a budget of its
own.
-/

set_option autoImplicit false

namespace Mediation

variable {Path : Type}

namespace Handler

/-- The first rule that applies to a failure. -/
def classify (handler : Handler Path) (failure : Failure) : Option (Rule Path) :=
  handler.rules.find? fun rule => rule.applies failure

/-- The policy for the failures of a rule. -/
def policyFor (handler : Handler Path) (rule : Option (Rule Path)) : Policy :=
  (rule.bind (·.policy)).getD handler.policy

/-- Whether the failures of a rule may be redelivered at all. -/
def redeliverable (rule : Option (Rule Path)) : Bool := rule.all (·.redeliverable)

/-- Whether a rule asks for a rollback. -/
def rollsBack (rule : Option (Rule Path)) : Bool :=
  match rule with
  | some { disposition := .rollback, .. } => true
  | _ => false

end Handler

namespace Guard

/-- What there is to tell of a guarded run. -/
inductive Event
  /-- The region is to run again, as the attempt of this number, after a delay. -/
  | redelivery (failure : Failure) (attempt : Attempts) (spacing : Spacing)
  /-- The region was to run again, but the handler shuts down. -/
  | interrupted (attempt : Attempts)
  /-- A handled path is taken. -/
  | handled
  /-- A failure is passed over. -/
  | continued
  /-- The exchange is rolled back. -/
  | rolledBack
  /-- Redelivery gave up. -/
  | exhausted (attempts : Attempts)
  /-- A handled path failed. -/
  | pathFailed (attempts : Attempts)
deriving DecidableEq, Repr

/-- What a guarded run does once its region has handed the exchange back. -/
inductive Next (Path : Type)
  /-- It leaves. -/
  | leave (x : Exchange)
  /-- It waits, and then runs the region again. -/
  | redeliver (x : Exchange) (spacing : Spacing)
  /-- It takes a handled path. -/
  | follow (x : Exchange) (path : Path)

/-- A rollback, asked for by mark, by failure or by rule. -/
def rollBack (x : Exchange) : Next Path × Option Event := (.leave x, some .rolledBack)

/-- The failure of a guard that gave up. -/
def giveUp (x : Exchange) (failure : Failure) (attempts : Attempts) : Exchange :=
  x.withFailure (.exhausted attempts failure)

/-- What becomes of a failure that is not redelivered. -/
def dispose (x : Exchange) (failure : Failure) (attempts : Attempts) :
    Disposition Path → Next Path × Option Event
  | .handled path => (.follow x.markHandled.withoutFailure path, some .handled)
  | .continued => (.leave x.markContinued.withoutFailure, some .continued)
  | .propagate | .rollback => (.leave (giveUp x failure attempts), some (.exhausted attempts))

/-- What becomes of a failure that is no rollback, once its rule is known. -/
def govern (handler : Handler Path) (entry : Attempts) (x : Exchange) (failure : Failure)
    (rule : Option (Rule Path)) : Next Path × Option Event :=
  let policy := handler.policyFor rule
  let attempts := x.redelivery.attempts.since entry
  if Handler.redeliverable rule && policy.allows attempts then
    let counted := x.recordAttempt failure
    let spacing := policy.spacing (attempts + 1)
    (.redeliver counted spacing,
     some (.redelivery failure (counted.redelivery.attempts.since entry) spacing))
  else
    let noted := x.recordFailure failure
    dispose noted failure (noted.redelivery.attempts.since entry)
      ((rule.map (·.disposition)).getD .propagate)

/-- What follows once the region has handed an exchange back. -/
def afterRegion (handler : Handler Path) (entry : Attempts) (x : Exchange) :
    Next Path × Option Event :=
  match x.failure with
  | none => if x.isRollbackOnly then rollBack x else (.leave x, none)
  | some failure =>
    if x.isRollbackOnly || failure.isRollback then rollBack x.markRollback
    else
      let rule := handler.classify failure
      if Handler.rollsBack rule then rollBack x.markRollback
      else govern handler entry x failure rule

/-- The failure of a run that was interrupted before an attempt. -/
def interruption (x : Exchange) (attempt : Attempts) : Failure :=
  .shutdown ("redelivery attempt " ++ toString attempt.toNat ++ " of exchange " ++ x.id ++
    " interrupted")

/-- The exchange of a run that was interrupted before an attempt. -/
def interrupt (entry : Attempts) (x : Exchange) : Exchange × Option Event :=
  let attempt := x.redelivery.attempts.since entry
  (x.withFailure (interruption x attempt), some (.interrupted attempt))

/-- The exchange after a handled path. A failure of the path is wrapped, unless it says already that
redelivery gave up or that there is to be a rollback. -/
def afterPath (entry : Attempts) (x : Exchange) : Exchange × Option Event :=
  let attempts := x.redelivery.attempts.since entry
  match x.failure with
  | none => (x, none)
  | some failure =>
    if failure.isExhausted || failure.isRollback then (x, none)
    else (giveUp x failure attempts, some (.pathFailed attempts))

end Guard

/-! ## Developer texts -/

/-- The developer text of a handler at its station. -/
def describeHandler {Work : Type} (handler : Handler (Step Work)) (station : Station) : String :=
  Described.record "ErrorHandler"
    [("policy", handler.policy.described),
     ("rules", Described.list (handler.rules.map Rule.described)),
     ("state", station.lifecycle.phase.described),
     ("in_flight", toString station.inFlight)]

/-- The developer text of a guard whose handler is at a station. -/
def describeGuard {Work : Type} (region : Step Work) (handler : Handler (Step Work))
    (station : Station) : String :=
  Described.openRecord "Guard"
    [("name", Quoted.quote (Step.guard region handler).name),
     ("handler", describeHandler handler station)]

end Mediation
