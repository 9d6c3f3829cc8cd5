import Mediation.Policy

/-!
# Steps

A step is a leaf, which does some work of its own; a pipeline, which runs steps in turn; or a guard,
which runs a region under an error handler. The rules of a handler may name steps of their own, the
handled paths, so handlers and steps are one tree. `Step.fold` computes from the leaves up; every
other function on trees is such a fold or follows its pattern.
-/

set_option autoImplicit false

namespace Mediation

/-- The identity of an error handler. Guards that share a handler share its lifecycle. -/
abbrev HandlerId := Nat

/-- What a rule makes of a failure that is not redelivered. -/
inductive Disposition (Path : Type)
  /-- The failure stays. -/
  | propagate
  /-- Another path turns it into a normal outcome. -/
  | handled (path : Path)
  /-- The failure is passed over. -/
  | continued
  /-- The exchange is rolled back, without redelivery. -/
  | rollback

/-- A rule for some failures. -/
structure Rule (Path : Type) where
  name : String
  applies : Failure → Bool
  disposition : Disposition Path
  /-- The policy for these failures, if it is not the handler's. -/
  policy : Option Policy
  redeliverable : Bool

/-- An error handler. -/
structure Handler (Path : Type) where
  id : HandlerId
  policy : Policy
  rules : List (Rule Path)

/-- A step. -/
inductive Step (Work : Type)
  /-- Work of its own. An immediate leaf does it as soon as it is called, before there is anything
  to wait for. -/
  | leaf (name : String) (immediate : Bool) (work : Work)
  | pipeline (name : String) (steps : List (Step Work))
  | guard (region : Step Work) (handler : Handler (Step Work))

/-! ## Rules -/

namespace Rule

variable {Path : Type}

/-- A rule that leaves failures as they are once redelivery is over. -/
def when (name : String) (applies : Failure → Bool) : Rule Path :=
  { name, applies, disposition := .propagate, policy := none, redeliverable := true }

def onKind (kind : String) : Rule Path :=
  when ("kind=" ++ kind) fun failure => failure.kind? = some kind

def any : Rule Path := when "any" fun _ => true

/-- One setting of a rule. -/
inductive Setting (Path : Type)
  | handled (path : Path)
  | continued
  | rollback
  | policy (policy : Policy)
  | notRedeliverable

def set (rule : Rule Path) : Setting Path → Rule Path
  | .handled path => { rule with disposition := .handled path }
  | .continued => { rule with disposition := .continued }
  | .rollback => { rule with disposition := .rollback }
  | .policy policy => { rule with policy := some policy }
  | .notRedeliverable => { rule with redeliverable := false }

end Rule

/-! ## Folding -/

namespace Step

variable {Work Value : Type}

/-- What a fold makes of the three kinds of step. -/
structure Algebra (Work Value : Type) where
  leaf : String → Bool → Work → Value
  pipeline : String → List Value → Value
  guard : Value → Handler Value → Value

mutual

/-- Computes a value of a step from the values of the steps it is made of. -/
def fold (algebra : Algebra Work Value) : Step Work → Value
  | leaf name immediate work => algebra.leaf name immediate work
  | pipeline name steps => algebra.pipeline name (foldAll algebra steps)
  | guard region handler => algebra.guard (fold algebra region) (foldHandler algebra handler)

def foldAll (algebra : Algebra Work Value) : List (Step Work) → List Value
  | [] => []
  | step :: rest => fold algebra step :: foldAll algebra rest

/-- The handler whose paths are values. -/
def foldHandler (algebra : Algebra Work Value) : Handler (Step Work) → Handler Value
  | { id, policy, rules } => { id, policy, rules := foldRules algebra rules }

def foldRules (algebra : Algebra Work Value) : List (Rule (Step Work)) → List (Rule Value)
  | [] => []
  | rule :: rest => foldRule algebra rule :: foldRules algebra rest

def foldRule (algebra : Algebra Work Value) : Rule (Step Work) → Rule Value
  | { name, applies, disposition, policy, redeliverable } =>
    { name, applies, disposition := foldDisposition algebra disposition, policy, redeliverable }

/-- The disposition whose path is a value. -/
def foldDisposition (algebra : Algebra Work Value) :
    Disposition (Step Work) → Disposition Value
  | .propagate => .propagate
  | .handled path => .handled (fold algebra path)
  | .continued => .continued
  | .rollback => .rollback

end

theorem foldAll_eq_map (algebra : Algebra Work Value) (steps : List (Step Work)) :
    foldAll algebra steps = steps.map (fold algebra) := by
  induction steps with
  | nil => rfl
  | cons step rest ih => simp only [foldAll, ih, List.map_cons]

theorem foldRules_eq_map (algebra : Algebra Work Value) (rules : List (Rule (Step Work))) :
    foldRules algebra rules = rules.map (foldRule algebra) := by
  induction rules with
  | nil => rfl
  | cons rule rest ih => simp only [foldRules, ih, List.map_cons]

theorem foldHandler_eq (algebra : Algebra Work Value) (handler : Handler (Step Work)) :
    foldHandler algebra handler =
      { id := handler.id, policy := handler.policy
        rules := handler.rules.map (foldRule algebra) } := by
  obtain ⟨id, policy, rules⟩ := handler
  simp only [foldHandler, foldRules_eq_map]

/-! ## Names -/

/-- The name of a step; a guard is named for its region. -/
def name : Step Work → String
  | leaf name _ _ => name
  | pipeline name _ => name
  | guard region _ => "guard(" ++ region.name ++ ")"

/-- Whether a step does its work as soon as it is called. -/
def isImmediate : Step Work → Bool
  | leaf _ immediate _ => immediate
  | _ => false

end Step

/-! ## Developer texts -/

/-- The developer text of a disposition. -/
def Disposition.described {Work : Type} : Disposition (Step Work) → String
  | .propagate => "Propagate"
  | .handled path => "Handled(" ++ path.name ++ ")"
  | .continued => "Continued"
  | .rollback => "Rollback"

def Rule.described {Work : Type} (rule : Rule (Step Work)) : String :=
  Described.openRecord "FailureRule"
    [("name", Quoted.quote rule.name),
     ("disposition", rule.disposition.described),
     ("redelivery", Described.optional (rule.policy.map Policy.described)),
     ("redeliverable", Described.bool rule.redeliverable)]

def describePipeline {Work : Type} (name : String) (steps : List (Step Work)) : String :=
  Described.record "Pipeline"
    [("name", Quoted.quote name),
     ("steps", Described.list (steps.map fun step => Quoted.quote step.name))]

def describeExecutor {Work : Type} (root : Step Work) : String :=
  Described.record "PipelineExecutor" [("root", Quoted.quote root.name)]

end Mediation
