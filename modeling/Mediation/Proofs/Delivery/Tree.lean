import Mediation.Step

/-!
# What holds of every step

The induction over a tree of steps is made here, once (`Step.Inherited.holds`): a property that
leaves have, and that pipelines and guards have if their parts do, is one that every step has.
Folding a tree computes the value of a step from the values of its parts, so a property of values
that an algebra hands on holds of the value of every step (`Step.fold_has`), and the works of a tree
are those of its leaves, handled paths included (`Step.EveryWork`).
-/

set_option autoImplicit false

namespace Mediation

variable {Work Value : Type}

/-- Every handled path of a handler has a property. -/
def Handler.PathsHave (property : Value → Prop) (handler : Handler Value) : Prop :=
  ∀ rule ∈ handler.rules, ∀ path, rule.disposition = .handled path → property path

theorem Handler.PathsHave.imp {property other : Value → Prop} {handler : Handler Value}
    (paths : handler.PathsHave property) (implies : ∀ value, property value → other value) :
    handler.PathsHave other :=
  fun rule listed path handled => implies path (paths rule listed path handled)

theorem Handler.PathsHave.and {property other : Value → Prop} {handler : Handler Value}
    (paths : handler.PathsHave property) (others : handler.PathsHave other) :
    handler.PathsHave fun value => property value ∧ other value :=
  fun rule listed path handled => ⟨paths rule listed path handled, others rule listed path handled⟩

namespace Step

/-! ## Induction -/

/-- Leaves have a property, and pipelines and guards have it if their parts do. -/
structure Inherited (property : Step Work → Prop) : Prop where
  leaf : ∀ name immediate work, property (.leaf name immediate work)
  pipeline : ∀ name steps, (∀ step ∈ steps, property step) → property (.pipeline name steps)
  guard : ∀ region handler, property region → handler.PathsHave property →
    property (.guard region handler)

namespace Inherited

variable {property : Step Work → Prop}

mutual

/-- **A property that is inherited holds of every step.** -/
theorem holds (inherited : Inherited property) : ∀ step : Step Work, property step
  | .leaf name immediate work => inherited.leaf name immediate work
  | .pipeline name steps => inherited.pipeline name steps (all_hold inherited steps)
  | .guard region handler =>
      inherited.guard region handler (holds inherited region) (paths_hold inherited handler)

theorem all_hold (inherited : Inherited property) :
    ∀ steps : List (Step Work), ∀ step ∈ steps, property step
  | [], step, member => by simp at member
  | first :: rest, step, member => by
      rcases List.mem_cons.mp member with here | inRest
      · exact here ▸ holds inherited first
      · exact all_hold inherited rest step inRest

theorem paths_hold (inherited : Inherited property) :
    ∀ handler : Handler (Step Work), handler.PathsHave property
  | ⟨_, _, rules⟩ => rules_hold inherited rules

theorem rules_hold (inherited : Inherited property) :
    ∀ rules : List (Rule (Step Work)), ∀ rule ∈ rules,
      ∀ path, rule.disposition = .handled path → property path
  | [], rule, member, _, _ => by simp at member
  | first :: rest, rule, member, path, handled => by
      rcases List.mem_cons.mp member with here | inRest
      · exact rule_holds inherited first path (here ▸ handled)
      · exact rules_hold inherited rest rule inRest path handled

theorem rule_holds (inherited : Inherited property) :
    ∀ rule : Rule (Step Work), ∀ path, rule.disposition = .handled path → property path
  | ⟨_, _, disposition, _, _⟩, path, handled =>
      disposition_holds inherited disposition path handled

theorem disposition_holds (inherited : Inherited property) :
    ∀ disposition : Disposition (Step Work), ∀ path,
      disposition = .handled path → property path
  | .propagate, _, handled => by simp at handled
  | .handled path, _, handled => by
      exact Disposition.handled.inj handled ▸ holds inherited path
  | .continued, _, handled => by simp at handled
  | .rollback, _, handled => by simp at handled

end

end Inherited

/-! ## Folds -/

/-- A property of values: what is made of a leaf has it, and what is made of a pipeline or a guard
has it if the values of the parts do. -/
structure Algebra.Hands (algebra : Algebra Work Value) (property : Value → Prop) : Prop where
  leaf : ∀ name immediate work, property (algebra.leaf name immediate work)
  pipeline : ∀ name values, (∀ value ∈ values, property value) →
    property (algebra.pipeline name values)
  guard : ∀ region handler, property region → handler.PathsHave property →
    property (algebra.guard region handler)

variable {algebra : Algebra Work Value} {property : Value → Prop}

theorem fold_pipeline (algebra : Algebra Work Value) (name : String) (steps : List (Step Work)) :
    (pipeline name steps).fold algebra = algebra.pipeline name (steps.map (fold algebra)) := by
  rw [fold, foldAll_eq_map]

/-- The paths of a folded handler are the values of its paths. -/
theorem paths_foldHandler {handler : Handler (Step Work)}
    (paths : handler.PathsHave fun path => property (path.fold algebra)) :
    (foldHandler algebra handler).PathsHave property := by
  intro folded listed value handled
  rw [foldHandler_eq] at listed
  obtain ⟨rule, inRules, rfl⟩ := List.mem_map.mp listed
  obtain ⟨name, applies, disposition, policy, redeliverable⟩ := rule
  cases disposition with
  | propagate => simp [foldRule, foldDisposition] at handled
  | continued => simp [foldRule, foldDisposition] at handled
  | rollback => simp [foldRule, foldDisposition] at handled
  | handled path =>
      rw [← Disposition.handled.inj handled]
      exact paths _ inRules path rfl

theorem Algebra.Hands.inherited (hands : algebra.Hands property) :
    Inherited fun step : Step Work => property (step.fold algebra) where
  leaf := hands.leaf
  pipeline name steps each := by
    rw [fold_pipeline]
    refine hands.pipeline name _ fun value member => ?_
    obtain ⟨step, listed, rfl⟩ := List.mem_map.mp member
    exact each step listed
  guard _ _ inside paths := hands.guard _ _ inside (paths_foldHandler paths)

/-- **A property that is handed on holds of every step.** -/
theorem fold_has (hands : algebra.Hands property) (step : Step Work) :
    property (step.fold algebra) :=
  hands.inherited.holds step

theorem foldHandler_has (hands : algebra.Hands property) (handler : Handler (Step Work)) :
    (foldHandler algebra handler).PathsHave property :=
  paths_foldHandler (hands.inherited.paths_hold handler)

/-! ## Works -/

/-- The algebra that asks something of every work. -/
def asking (holds : Work → Prop) : Algebra Work Prop :=
  { leaf := fun _ _ work => holds work
    pipeline := fun _ parts => ∀ part ∈ parts, part
    guard := fun region handler => region ∧ handler.PathsHave id }

/-- Every leaf of a step, those on handled paths included, does a work of some kind. -/
def EveryWork (holds : Work → Prop) (step : Step Work) : Prop := step.fold (asking holds)

section EveryWork

variable {holds : Work → Prop}

theorem everyWork_pipeline {name : String} {steps : List (Step Work)} :
    EveryWork holds (.pipeline name steps) ↔ ∀ step ∈ steps, EveryWork holds step := by
  rw [EveryWork, fold_pipeline]
  exact List.forall_mem_map

theorem everyWork_guard {region : Step Work} {handler : Handler (Step Work)} :
    EveryWork holds (.guard region handler) ↔
      EveryWork holds region ∧ handler.PathsHave (EveryWork holds) := by
  have folded : (foldHandler (asking holds) handler).PathsHave id ↔
      handler.PathsHave (EveryWork holds) := by
    refine ⟨fun paths rule listed path handled => ?_, fun paths => paths_foldHandler paths⟩
    refine paths (foldRule (asking holds) rule) ?_ (path.fold (asking holds)) ?_
    · rw [foldHandler_eq]
      exact List.mem_map_of_mem listed
    · obtain ⟨name, applies, disposition, policy, redeliverable⟩ := rule
      subst handled
      rfl
  exact and_congr Iff.rfl folded

/-- What holds of every work holds of every leaf. -/
theorem everyWork_of_forall (all : ∀ work, holds work) (step : Step Work) :
    EveryWork holds step := by
  have inherited : Inherited (EveryWork holds) :=
    { leaf := fun _ _ work => all work
      pipeline := fun _ _ each => everyWork_pipeline.mpr each
      guard := fun _ _ inside paths => everyWork_guard.mpr ⟨inside, paths⟩ }
  exact inherited.holds step

end EveryWork

end Step

end Mediation
