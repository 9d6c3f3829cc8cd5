import Mediation.Step

/-!
# Criteria for rules

The conditions that a script can put on a failure.
-/

set_option autoImplicit false

namespace Mediation.Scenario

/-- A condition on failures. -/
inductive Criterion
  | timeout
  | rollback
  | exhausted
  | step
  | never
  /-- The innermost failure is that of a step of a kind. -/
  | rootKind (kind : String)
  /-- The text for people contains a text. -/
  | mentions (part : String)
  | equals (failure : Failure)

namespace Criterion

/-- Whether some characters follow one another somewhere in a text. -/
def occursIn (part : List Char) : List Char → Bool
  | [] => part.isEmpty
  | c :: rest => part.isPrefixOf (c :: rest) || occursIn part rest

/-- Whether a failure meets a condition. -/
def holds : Criterion → Failure → Bool
  | timeout, failure => failure.isTimeout
  | rollback, failure => failure.isRollback
  | exhausted, failure => failure.isExhausted
  | step, failure => failure.kind?.isSome
  | never, _ => false
  | rootKind kind, failure => failure.root.kind? = some kind
  | mentions part, failure => occursIn part.toList failure.text.toList
  | equals other, failure => failure = other

end Criterion

end Mediation.Scenario
