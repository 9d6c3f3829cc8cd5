import Mediation.Delivery.Basic
import Mediation.Proofs.Delivery.Tree

/-!
# What steps keep

A relation between the exchange that enters and the one that leaves holds of every step once it
holds of the leaves, if it composes and allows for the bookkeeping of guards (`Ledgered`). The proof
goes once over the tree of steps (`Step.run_keeps`); what guards may do to an exchange enters it
through `Ledgered` only.
-/

set_option autoImplicit false

namespace Mediation

/-- A relation that composes and that the bookkeeping of guards respects. -/
structure Ledgered (related : Exchange → Exchange → Prop) : Prop where
  refl : ∀ x, related x x
  trans : ∀ {x y z}, related x y → related y z → related x z
  withFailure : ∀ x failure, related x (x.withFailure failure)
  withoutFailure : ∀ x, related x x.withoutFailure
  markRollback : ∀ x, related x x.markRollback
  markHandled : ∀ x, related x x.markHandled
  markContinued : ∀ x, related x x.markContinued
  recordAttempt : ∀ x failure, related x (x.recordAttempt failure)
  recordFailure : ∀ x failure, related x (x.recordFailure failure)

namespace Behaviour

variable {World Work : Type} {related : Exchange → Exchange → Prop}
  {surroundings : Surroundings World Work}

/-- Whenever it gives an exchange back, that one is related to the one that came. -/
def Keeps (related : Exchange → Exchange → Prop) (behaviour : Behaviour World Work) : Prop :=
  ∀ ⦃pinned x course after later⦄, behaviour pinned x course = (.finished after, later) →
    related x after

/-- Every handled path of a handler keeps a relation. -/
def PathsKeep (related : Exchange → Exchange → Prop) (handler : Handler (Behaviour World Work)) :
    Prop :=
  ∀ rule ∈ handler.rules, ∀ path, rule.disposition = .handled path → path.Keeps related

/-! ## Pipelines -/

theorem sequence_keeps (ledgered : Ledgered related) {steps : List (Behaviour World Work)}
    (each : ∀ step ∈ steps, step.Keeps related) : (sequence steps).Keeps related := by
  induction steps with
  | nil =>
      intro pinned x course after later gives
      obtain ⟨same, _⟩ := Prod.mk.inj gives
      rw [← Fate.finished.inj same]
      exact ledgered.refl x
  | cons step rest ih =>
      intro pinned x course after later gives
      simp only [sequence] at gives
      split at gives
      · cases first : step pinned x course with
        | mk fate between =>
            rw [first] at gives
            cases fate with
            | finished middle =>
                have before := each step List.mem_cons_self first
                have behind :=
                  ih (fun other member => each other (List.mem_cons_of_mem _ member)) gives
                exact ledgered.trans before behind
            | panicked panic => simp at gives
            | unfinished => simp at gives
      · obtain ⟨same, _⟩ := Prod.mk.inj gives
        rw [← Fate.finished.inj same]
        exact ledgered.refl x

/-! ## Guards -/

/-- What a guard has decided keeps a relation, and a path that it follows stands in its rules. -/
def NextKeeps (related : Exchange → Exchange → Prop) (handler : Handler (Behaviour World Work))
    (x : Exchange) : Guard.Next (Behaviour World Work) → Prop
  | .leave y => related x y
  | .redeliver y _ => related x y
  | .follow y path => related x y ∧ ∃ rule ∈ handler.rules, rule.disposition = .handled path

theorem NextKeeps.after (ledgered : Ledgered related) {handler : Handler (Behaviour World Work)}
    {x y : Exchange} {next : Guard.Next (Behaviour World Work)} (first : related x y)
    (keeps : NextKeeps related handler y next) : NextKeeps related handler x next := by
  cases next with
  | leave z => exact ledgered.trans first keeps
  | redeliver z spacing => exact ledgered.trans first keeps
  | follow z path => exact ⟨ledgered.trans first keeps.1, keeps.2⟩

theorem dispose_keeps (ledgered : Ledgered related) {handler : Handler (Behaviour World Work)}
    (x : Exchange) (failure : Failure) (attempts : Attempts) :
    NextKeeps related handler x (Guard.dispose x failure attempts
      (((handler.classify failure).map (·.disposition)).getD .propagate)).1 := by
  cases ruled : handler.classify failure with
  | none => exact ledgered.withFailure x _
  | some rule =>
      have listed : rule ∈ handler.rules := List.mem_of_find?_eq_some ruled
      change NextKeeps related handler x (Guard.dispose x failure attempts rule.disposition).1
      cases disposition : rule.disposition with
      | propagate => exact ledgered.withFailure x _
      | rollback => exact ledgered.withFailure x _
      | continued => exact ledgered.trans (ledgered.markContinued x) (ledgered.withoutFailure _)
      | handled path =>
          have handed := ledgered.trans (ledgered.markHandled x) (ledgered.withoutFailure _)
          exact ⟨handed, rule, listed, disposition⟩

theorem afterRegion_keeps (ledgered : Ledgered related) (handler : Handler (Behaviour World Work))
    (entry : Attempts) (x : Exchange) :
    NextKeeps related handler x (Guard.afterRegion handler entry x).1 := by
  unfold Guard.afterRegion
  cases x.failure with
  | none =>
      simp only
      split
      · exact ledgered.refl x
      · exact ledgered.refl x
  | some failure =>
      simp only
      split
      · exact ledgered.markRollback x
      · split
        · exact ledgered.markRollback x
        · simp only [Guard.govern]
          split
          · exact ledgered.recordAttempt x failure
          · exact (dispose_keeps ledgered _ failure _).after ledgered
              (ledgered.recordFailure x failure)

theorem afterPath_keeps (ledgered : Ledgered related) (entry : Attempts) (x : Exchange) :
    related x (Guard.afterPath entry x).1 := by
  unfold Guard.afterPath
  cases x.failure with
  | none => exact ledgered.refl x
  | some failure =>
      simp only
      split
      · exact ledgered.refl x
      · exact ledgered.withFailure x _

theorem rounds_keeps (ledgered : Ledgered related) {handler : Handler (Behaviour World Work)}
    {region : Behaviour World Work} (inside : region.Keeps related)
    (paths : PathsKeep related handler) (entry : Attempts) (pinned : Bool) (fuel : Nat)
    {x after : Exchange} {course later : Course World Work}
    (gives : rounds surroundings handler region entry pinned fuel x course =
      (.finished after, later)) : related x after := by
  induction fuel generalizing x course with
  | zero => simp [rounds] at gives
  | succ fuel ih =>
      simp only [rounds] at gives
      cases ran : region pinned x course with
      | mk fate between =>
          rw [ran] at gives
          cases fate with
          | panicked panic => simp at gives
          | unfinished => simp at gives
          | finished y =>
              have first := inside ran
              have decided := afterRegion_keeps ledgered handler entry y
              simp only at gives
              cases decides : Guard.afterRegion handler entry y with
              | mk next event =>
                  rw [decides] at decided gives
                  cases next with
                  | leave z =>
                      obtain ⟨same, _⟩ := Prod.mk.inj gives
                      rw [← Fate.finished.inj same]
                      exact ledgered.trans first decided
                  | follow z path =>
                      obtain ⟨handed, rule, listed, disposition⟩ := decided
                      simp only at gives
                      cases took : path pinned z (between.noteEvent handler.id event) with
                      | mk fate behind =>
                          rw [took] at gives
                          cases fate with
                          | panicked panic => simp at gives
                          | unfinished => simp at gives
                          | finished outcome =>
                              have second := paths rule listed path disposition took
                              have third := afterPath_keeps ledgered entry outcome
                              obtain ⟨same, _⟩ := Prod.mk.inj gives
                              rw [← Fate.finished.inj same]
                              exact ledgered.trans first
                                (ledgered.trans handed (ledgered.trans second third))
                  | redeliver z spacing =>
                      simp only at gives
                      split at gives
                      · obtain ⟨same, _⟩ := Prod.mk.inj gives
                        rw [← Fate.finished.inj same]
                        exact ledgered.trans first
                          (ledgered.trans decided (ledgered.withFailure z _))
                      · exact ledgered.trans first (ledgered.trans decided
                          (ledgered.trans (ledgered.withoutFailure z) (ih gives)))

theorem guarded_keeps (ledgered : Ledgered related) (bound : Nat)
    {handler : Handler (Behaviour World Work)} {region : Behaviour World Work}
    (inside : region.Keeps related) (paths : PathsKeep related handler) :
    (guarded surroundings bound handler region).Keeps related := by
  intro pinned x course after later gives
  obtain ⟨same, _⟩ := Prod.mk.inj gives
  exact rounds_keeps ledgered inside paths _ pinned bound (Prod.ext same rfl)

theorem guard_keeps (ledgered : Ledgered related) (bound : Nat)
    {handler : Handler (Behaviour World Work)} {region : Behaviour World Work}
    (inside : region.Keeps related) (paths : PathsKeep related handler) :
    (guard surroundings bound region handler).Keeps related := by
  intro pinned x course after later gives
  have keeps : (guarded surroundings bound handler region).Keeps related :=
    guarded_keeps ledgered bound inside paths
  simp only [guard] at gives
  split at gives
  · exact keeps gives
  · simp only [pinnedApart] at gives
    cases ran : guarded surroundings bound handler region true x course with
    | mk fate behind =>
        rw [ran] at gives
        cases fate with
        | panicked panic =>
            obtain ⟨same, _⟩ := Prod.mk.inj gives
            rw [← Fate.finished.inj same]
            exact ledgered.withFailure x _
        | unfinished => simp at gives
        | finished y =>
            obtain ⟨same, _⟩ := Prod.mk.inj gives
            rw [← Fate.finished.inj same]
            exact keeps ran

end Behaviour

/-! ## Steps -/

namespace Step

variable {World Work : Type} {related : Exchange → Exchange → Prop}
  {surroundings : Surroundings World Work}

theorem hands_keeps (ledgered : Ledgered related) (bound : Nat)
    (leaves : ∀ work, (Behaviour.leaf surroundings work).Keeps related) :
    (behaviours surroundings bound).Hands (Behaviour.Keeps related) where
  leaf _ _ work := leaves work
  pipeline _ _ each := Behaviour.sequence_keeps ledgered each
  guard _ _ inside paths := Behaviour.guard_keeps ledgered bound inside paths

theorem foldHandler_keeps (ledgered : Ledgered related) (bound : Nat)
    (leaves : ∀ work, (Behaviour.leaf surroundings work).Keeps related)
    (handler : Handler (Step Work)) :
    Behaviour.PathsKeep related (Step.foldHandler (behaviours surroundings bound) handler) :=
  foldHandler_has (hands_keeps ledgered bound leaves) handler

/-- **A step keeps what its leaves keep.** -/
theorem run_keeps (ledgered : Ledgered related) (bound : Nat)
    (leaves : ∀ work, (Behaviour.leaf surroundings work).Keeps related) (step : Step Work) :
    (step.run surroundings bound).Keeps related :=
  fold_has (hands_keeps ledgered bound leaves) step

end Step

end Mediation
