import Mediation.Text.Described

/-!
# Failures

A `Failure` says why an exchange did not go through. A failure that outlived its redeliveries wraps
the failure of the last attempt, possibly more than once; `Failure.root` is the innermost one and
never such a wrapper (`isExhausted_root`).
-/

set_option autoImplicit false

namespace Mediation

/-- Why an exchange failed. -/
inductive Failure
  /-- No reply came before the deadline. -/
  | timeout (correlationId : String) (limit : Duration)
  /-- A step asked for a rollback. -/
  | rollback (reason : String)
  /-- Redelivery gave up after so many attempts; `cause` is the failure of the last one. -/
  | exhausted (attempts : UInt32) (cause : Failure)
  /-- A step failed. -/
  | step (kind message : String)
  /-- The transport could not send or resolve. -/
  | transport (reason : String)
  /-- The remote side answered with a fault. -/
  | remote (fault : String)
  /-- The component in charge is shutting down. -/
  | shutdown (reason : String)
  /-- The continuation was given up without being used. -/
  | superseded
deriving DecidableEq, Repr, Inhabited

namespace Failure

def kind? : Failure → Option String
  | step kind _ => some kind
  | _ => none

def isTimeout : Failure → Bool
  | timeout _ _ => true
  | _ => false

def isRollback : Failure → Bool
  | rollback _ => true
  | _ => false

def isExhausted : Failure → Bool
  | exhausted _ _ => true
  | _ => false

/-- The failure inside all wrappers of given-up redeliveries. -/
def root : Failure → Failure
  | exhausted _ cause => cause.root
  | failure => failure

theorem isExhausted_root (failure : Failure) : failure.root.isExhausted = false := by
  induction failure with
  | exhausted _ _ ih => simpa [root] using ih
  | _ => rfl

def text : Failure → String
  | timeout id limit =>
    "No reply received for correlation id \x27" ++ id ++ "\x27 within " ++ limit.text
  | rollback reason => "Intended rollback: " ++ reason
  | exhausted attempts cause =>
    "Redelivery exhausted after " ++ toString attempts.toNat ++ " attempts: " ++ cause.text
  | step kind message => kind ++ ": " ++ message
  | transport reason => "Transport failure: " ++ reason
  | remote fault => "Remote fault: " ++ fault
  | shutdown reason => "Shutting down: " ++ reason
  | superseded => "Continuation dropped before completion"

def described : Failure → String
  | timeout id limit =>
    Described.record "Timeout" [("correlation_id", Quoted.quote id), ("timeout", limit.text)]
  | rollback reason => Described.record "Rollback" [("reason", Quoted.quote reason)]
  | exhausted attempts cause =>
    Described.record "Exhausted"
      [("attempts", toString attempts.toNat), ("cause", cause.described)]
  | step kind message =>
    Described.record "Step" [("kind", Quoted.quote kind), ("message", Quoted.quote message)]
  | transport reason => Described.tagged "Transport" (Quoted.quote reason)
  | remote fault => Described.tagged "Remote" (Quoted.quote fault)
  | shutdown reason => Described.tagged "Shutdown" (Quoted.quote reason)
  | superseded => "Superseded"

end Failure

end Mediation
