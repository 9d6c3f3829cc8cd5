import Mediation.Exchange.Basic

/-!
# Handing an exchange back

A step that waits for work elsewhere splits into two halves: the continuation, which is used at most
once to hand the exchange back, and the suspension, which collects it. A continuation that is given
up without being used leaves the suspension with the verdict that it was superseded.
-/

set_option autoImplicit false

namespace Mediation

/-- What a suspension collects. -/
inductive Verdict
  /-- The exchange, and whether the work ended without a suspension. -/
  | resumed (x : Exchange) (synchronous : Bool)
  /-- The continuation was given up. -/
  | superseded

/-- The state of the two halves of one suspension. -/
structure Handoff where
  /-- The continuation has been neither used nor given up. -/
  armed : Bool
  /-- The suspension has neither collected its verdict nor been given up. -/
  awaited : Bool
  /-- What there is to collect. -/
  verdict : Option Verdict

namespace Handoff

def fresh : Handoff := { armed := true, awaited := true, verdict := none }

instance : Inhabited Handoff := ⟨fresh⟩

/-- Uses the continuation. The answer says whether the exchange reached a suspension, and nothing
if the continuation had been used or given up before. -/
def complete (handoff : Handoff) (x : Exchange) (synchronous : Bool) : Handoff × Option Bool :=
  if !handoff.armed then (handoff, none)
  else if handoff.awaited then
    ({ handoff with armed := false, verdict := some (.resumed x synchronous) }, some true)
  else ({ handoff with armed := false }, some false)

def supersede (handoff : Handoff) : Handoff :=
  if handoff.armed then { handoff with armed := false, verdict := some .superseded } else handoff

def abandon (handoff : Handoff) : Handoff := { handoff with awaited := false }

/-- Whether the suspension was given up, as long as the continuation can tell. -/
def abandoned? (handoff : Handoff) : Option Bool :=
  if handoff.armed then some (!handoff.awaited) else none

/-- What a look at the suspension shows. -/
inductive Sight
  /-- The verdict was collected before, or the suspension given up. -/
  | gone
  /-- There is no verdict yet. -/
  | pending
  /-- The verdict, collected by this look. -/
  | collected (verdict : Verdict)

/-- Looks at the suspension and collects the verdict if there is one. -/
def look (handoff : Handoff) : Handoff × Sight :=
  if !handoff.awaited then (handoff, .gone)
  else match handoff.verdict with
    | none => (handoff, .pending)
    | some verdict => ({ handoff with awaited := false }, .collected verdict)

end Handoff

end Mediation
