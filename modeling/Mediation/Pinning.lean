import Mediation.Failure

/-!
# Pinned work

Work that belongs to a transaction runs on one thread from start to end; it is *pinned* there.
Pinning inside pinned work changes nothing. A panic of pinned work ends its thread, and whoever
waits for that thread gets a failure instead (`Panic.joinFailure`).
-/

set_option autoImplicit false

namespace Mediation

/-- What a panic carries: a text, or something that is none. -/
inductive Panic
  | text (message : String)
  | other
deriving DecidableEq, Repr, Inhabited

namespace Panic

/-- What is reported of a panic that nobody contained. -/
def escaped : Panic → String
  | text message => message
  | other => "<other>"

/-- The message of a panic that was contained where the step ran. -/
def message : Panic → String
  | text message => message
  | other => "step panicked"

/-- The message of whoever waited for a thread that a panic ended. Threads are not told apart. -/
def joinMessage : Panic → String
  | text message => "task <n> panicked with message " ++ Quoted.quote message
  | other => "task <n> panicked"

/-- The failure of a step that panicked. -/
def failure (message : String) : Failure := .step "panic" message

/-- The failure of pinned work that panicked. -/
def joinFailure (panic : Panic) : Failure := failure panic.joinMessage

end Panic

/-- Some work that looks at its own thread. -/
inductive Errand
  /-- Reports whether it is pinned. -/
  | look
  /-- Runs other errands pinned. -/
  | pin (errands : List Errand)
  /-- Panics. -/
  | panic (payload : Panic)

/-- What an errand reports. -/
inductive ErrandReport
  | pinned (value : Bool)
  | done (reports : List ErrandReport)
  | failed (failure : Failure)

namespace Errand

mutual

def run (pinned : Bool) : Errand → Except Panic ErrandReport
  | look => .ok (.pinned pinned)
  | panic payload => .error payload
  | pin errands =>
    match runAll true errands with
    | .ok reports => .ok (.done reports)
    | .error payload => if pinned then .error payload else .ok (.failed payload.joinFailure)

/-- Runs errands in turn up to the first that panics. -/
def runAll (pinned : Bool) : List Errand → Except Panic (List ErrandReport)
  | [] => .ok []
  | errand :: rest =>
    match run pinned errand with
    | .error payload => .error payload
    | .ok report =>
      match runAll pinned rest with
      | .error payload => .error payload
      | .ok reports => .ok (report :: reports)

end

end Errand

end Mediation
