import Mediation.Delivery.Basic
import Mediation.Proofs.Delivery.Tree

/-!
# Pipelines inside pipelines

Steps may be put into pipelines of their own, and these into others, without any difference. Taking
all pipelines in a list of steps apart (`Step.flatten`) leaves the steps that are none, in their
order, and one pipeline of these does what the nested ones do: the same leaves run, in the same
order and on the same exchanges, and the same exchange comes back (`Step.sequence_flatten`).

The reason is that a pipeline looks at the exchange before each step, the first one included. So an
inner pipeline stops for the same exchanges as the outer one, and an empty one is no step at all. A
step runs exactly if the exchange that it would receive has neither a failure nor a mark for
rollback (`Behaviour.sequence_next`, `Behaviour.sequence_halts`).
-/

set_option autoImplicit false

namespace Mediation

variable {World Work : Type}

/-- An exchange on which a pipeline runs its next step. -/
structure Exchange.Clear (x : Exchange) : Prop where
  noFailure : x.failure = none
  noMark : x.redelivery.rollbackOnly = false

theorem Behaviour.goesOn_iff {x : Exchange} : goesOn x = true ↔ x.Clear := by
  constructor
  · intro goes
    simp only [goesOn, Exchange.isFailed, Exchange.isRollbackOnly, Bool.not_eq_true',
      Bool.or_eq_false_iff, Option.isSome_eq_false_iff, Option.isNone_iff_eq_none] at goes
    exact ⟨goes.1, goes.2⟩
  · rintro ⟨noFailure, noMark⟩
    simp [goesOn, Exchange.isFailed, Exchange.isRollbackOnly, noFailure, noMark]

namespace Behaviour

variable {before steps others : List (Behaviour World Work)} {step : Behaviour World Work}
  {pinned : Bool} {x y : Exchange} {course left : Course World Work}

/-! ## One step after the others -/

/-- On an exchange that is not clear nothing runs. -/
theorem sequence_of_not_clear (steps : List (Behaviour World Work)) (stops : ¬x.Clear) :
    sequence steps pinned x course = (.finished x, course) := by
  cases steps with
  | nil => rfl
  | cons step rest =>
      rw [← goesOn_iff] at stops
      simp only [sequence, if_neg stops]

/-- A pipeline of one step does what the step does, if it runs. -/
theorem sequence_single (clear : x.Clear) :
    sequence [step] pinned x course = step pinned x course := by
  simp only [sequence, if_pos (goesOn_iff.mpr clear)]
  obtain ⟨fate, left⟩ := step pinned x course
  cases fate <;> rfl

/-- **The next step runs** on what those before it have left, if that is clear. -/
theorem sequence_next (leaves : sequence before pinned x course = (.finished y, left))
    (clear : y.Clear) (step : Behaviour World Work) :
    sequence (before ++ [step]) pinned x course = step pinned y left := by
  rw [sequence_append, leaves]
  exact sequence_single clear

/-- **No other step runs** behind one that has left an exchange that is not clear. -/
theorem sequence_halts (leaves : sequence before pinned x course = (.finished y, left))
    (stops : ¬y.Clear) (rest : List (Behaviour World Work)) :
    sequence (before ++ rest) pinned x course = (.finished y, left) := by
  rw [sequence_append, leaves]
  exact sequence_of_not_clear rest stops

/-- No other step runs behind one that has left no exchange. -/
theorem sequence_broken (leaves : ∀ y, (sequence before pinned x course).1 ≠ .finished y)
    (rest : List (Behaviour World Work)) :
    sequence (before ++ rest) pinned x course = sequence before pinned x course := by
  rw [sequence_append]
  generalize sequence before pinned x course = result at leaves
  obtain ⟨fate, left⟩ := result
  cases fate with
  | finished y => exact absurd rfl (leaves y)
  | panicked panic => rfl
  | unfinished => rfl

/-! ## Sequences as steps -/

/-- **A sequence as the only step of another one** makes no difference. -/
theorem sequence_sequence (steps : List (Behaviour World Work)) :
    sequence [sequence steps] = sequence steps := by
  funext pinned x course
  by_cases clear : x.Clear
  · exact sequence_single clear
  · rw [sequence_of_not_clear _ clear, sequence_of_not_clear _ clear]

/-- What comes first may be replaced by what does the same, and so may what comes after it. -/
theorem sequence_append_congr {first second : List (Behaviour World Work)}
    (same : sequence first = sequence before) (after : sequence second = sequence steps) :
    sequence (first ++ second) = sequence (before ++ steps) := by
  funext pinned x course
  rw [sequence_append, sequence_append, same, after]

end Behaviour

/-! ## Taking pipelines apart -/

namespace Step

def isPipeline : Step Work → Bool
  | pipeline _ _ => true
  | leaf _ _ _ | guard _ _ => false

mutual

/-- The steps that are left of a step once pipelines are taken apart. -/
def parts : Step Work → List (Step Work)
  | pipeline _ steps => flatten steps
  | leaf name immediate work => [leaf name immediate work]
  | guard region handler => [guard region handler]

/-- The steps that are left of a list once all pipelines in it are taken apart. -/
def flatten : List (Step Work) → List (Step Work)
  | [] => []
  | step :: rest => parts step ++ flatten rest

end

theorem flatten_eq_flatMap (steps : List (Step Work)) : flatten steps = steps.flatMap parts := by
  induction steps with
  | nil => rfl
  | cons step rest ih => rw [flatten, ih, List.flatMap_cons]

/-- A list within a list, with an empty one in it. -/
example (work : Work) :
    flatten [.pipeline "outer" [.leaf "first" true work, .pipeline "empty" []],
      .leaf "second" true work] = [.leaf "first" true work, .leaf "second" true work] :=
  rfl

/-- **No pipeline is left.** -/
theorem not_isPipeline_of_mem_flatten {steps : List (Step Work)} {part : Step Work}
    (listed : part ∈ flatten steps) : part.isPipeline = false := by
  have inherited : Inherited fun step : Step Work => ∀ part ∈ step.parts, part.isPipeline = false :=
    { leaf := by
        intro name immediate work part here
        rw [List.mem_singleton.mp here]
        rfl
      pipeline := by
        intro name steps each part here
        rw [parts, flatten_eq_flatMap] at here
        obtain ⟨step, inside, among⟩ := List.mem_flatMap.mp here
        exact each step inside part among
      guard := by
        intro region handler _ _ part here
        rw [List.mem_singleton.mp here]
        rfl }
  rw [flatten_eq_flatMap] at listed
  obtain ⟨step, _, among⟩ := List.mem_flatMap.mp listed
  exact inherited.holds step part among

variable (surroundings : Surroundings World Work) (bound : Nat)

/-- If the parts of every step do what the step does, the parts of a list do what the list does. -/
theorem sequence_flatten_of_parts {steps : List (Step Work)}
    (each : ∀ step ∈ steps, Behaviour.sequence (step.parts.map (run surroundings bound)) =
      Behaviour.sequence [step.run surroundings bound]) :
    Behaviour.sequence ((flatten steps).map (run surroundings bound)) =
      Behaviour.sequence (steps.map (run surroundings bound)) := by
  induction steps with
  | nil => rfl
  | cons step rest ih =>
      rw [flatten, List.map_append, List.map_cons, ← List.singleton_append]
      apply Behaviour.sequence_append_congr
      · exact each step List.mem_cons_self
      · exact ih fun other inside => each other (List.mem_cons_of_mem step inside)

/-- **The parts of a step** do in turn what the step does in a pipeline. -/
theorem sequence_parts (step : Step Work) :
    Behaviour.sequence (step.parts.map (run surroundings bound)) =
      Behaviour.sequence [step.run surroundings bound] := by
  have inherited : Inherited fun step : Step Work =>
      Behaviour.sequence (step.parts.map (run surroundings bound)) =
        Behaviour.sequence [step.run surroundings bound] :=
    { leaf := fun _ _ _ => rfl
      pipeline := by
        intro name steps each
        rw [parts, run_pipeline, Behaviour.sequence_sequence]
        exact sequence_flatten_of_parts surroundings bound each
      guard := fun _ _ _ _ => rfl }
  exact inherited.holds step

/-- **Taking pipelines apart** makes no difference. -/
theorem sequence_flatten (steps : List (Step Work)) :
    Behaviour.sequence ((flatten steps).map (run surroundings bound)) =
      Behaviour.sequence (steps.map (run surroundings bound)) :=
  sequence_flatten_of_parts surroundings bound fun step _ =>
    sequence_parts surroundings bound step

end Step

namespace Delivery

open Step (flatten)

/-- A pipeline as far as some of its steps, and what the next one does. -/
structure Advances (surroundings : Surroundings World Work) (bound : Nat) (name : String)
    (pinned : Bool) (x : Exchange) (course : Course World Work) (before : List (Step Work)) :
    Prop where
  /-- The next step runs on what the others have left, if that is clear. -/
  runs : ∀ y left,
    (Step.pipeline name before).run surroundings bound pinned x course = (.finished y, left) →
    y.Clear → ∀ step : Step Work,
    (Step.pipeline name (before ++ [step])).run surroundings bound pinned x course =
      step.run surroundings bound pinned y left
  /-- Otherwise neither the next step nor a later one runs, whatever it is. -/
  halts : ∀ y left,
    (Step.pipeline name before).run surroundings bound pinned x course = (.finished y, left) →
    ¬y.Clear → ∀ rest,
    (Step.pipeline name (before ++ rest)).run surroundings bound pinned x course =
      (.finished y, left)
  /-- Nor do they if the others have left no exchange. -/
  broken : (∀ y,
    ((Step.pipeline name before).run surroundings bound pinned x course).1 ≠ .finished y) →
    ∀ rest, (Step.pipeline name (before ++ rest)).run surroundings bound pinned x course =
      (Step.pipeline name before).run surroundings bound pinned x course

theorem advances (surroundings : Surroundings World Work) (bound : Nat) (name : String)
    (pinned : Bool) (x : Exchange) (course : Course World Work) (before : List (Step Work)) :
    Advances surroundings bound name pinned x course before where
  runs := by
    intro y left leaves clear step
    rw [Step.run_pipeline] at leaves ⊢
    rw [List.map_append]
    exact Behaviour.sequence_next leaves clear _
  halts := by
    intro y left leaves stops rest
    rw [Step.run_pipeline] at leaves ⊢
    rw [List.map_append]
    exact Behaviour.sequence_halts leaves stops _
  broken := by
    intro leaves rest
    rw [Step.run_pipeline] at leaves ⊢
    rw [Step.run_pipeline, List.map_append]
    exact Behaviour.sequence_broken leaves _

/-- **Pipelines flatten.** Whatever leaves do, a list of steps that are put into pipelines in any
way does the same as the steps alone: the same leaves run in the same order on the same exchanges,
and the same exchange comes back, in a delivery and out of one. Of the steps of a pipeline each runs
exactly if those before it have left an exchange without a failure and without a mark for
rollback, and then on this exchange. -/
theorem pipelines_flatten (surroundings : Surroundings World Work) (bound : Nat)
    (name other : String) (steps : List (Step Work)) (pinned : Bool) (x : Exchange)
    (course : Course World Work) :
    (Step.pipeline name steps).run surroundings bound pinned x course =
        (Step.pipeline other (flatten steps)).run surroundings bound pinned x course ∧
      deliver surroundings bound (.pipeline name steps) pinned x course =
        deliver surroundings bound (.pipeline other (flatten steps)) pinned x course ∧
      (∀ part ∈ flatten steps, part.isPipeline = false) ∧
      ∀ before, Advances surroundings bound name pinned x course before := by
  have same : (Step.pipeline name steps).run surroundings bound =
      (Step.pipeline other (flatten steps)).run surroundings bound := by
    rw [Step.run_pipeline, Step.run_pipeline]
    exact (Step.sequence_flatten surroundings bound steps).symm
  refine ⟨by rw [same], ?_, fun part listed => Step.not_isPipeline_of_mem_flatten listed,
    advances surroundings bound name pinned x course⟩
  simp only [deliver, runRoot, same]
  rfl

end Delivery

end Mediation
