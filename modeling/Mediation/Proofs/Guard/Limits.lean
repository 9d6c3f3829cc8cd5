import Mediation.Proofs.Guard.Budget

/-!
# How often a region can run

A guard runs its region again as long as fewer redeliveries are counted since it was entered than
the policy for the failure allows. Where the region lowers no count, every run leaves one more
attempt counted than the run before, and no policy of the handler allows more than the largest of
its budgets (`Handler.largestBudget`). So the region runs once more than that at most
(`GuardedRun.Lap.le_largestBudget`).

The count saturates, and then grows no more. So the argument needs that the count at the entry
leaves room for the largest budget. Where it leaves no room for the budget of a failure that keeps
coming, the region runs without end (`GuardedRun.Insatiable.exists_lap`).
-/

set_option autoImplicit false

namespace Mediation

/-! ## Budgets -/

namespace Handler

variable {Path : Type} {handler : Handler Path}

/-- The policies that a handler may go by: its own and those of its rules. -/
def policies (handler : Handler Path) : List Policy :=
  handler.policy :: handler.rules.filterMap (·.policy)

/-- The most redeliveries that one of these policies allows. -/
def largestBudget (handler : Handler Path) : Nat :=
  (handler.policies.map (·.maxRedeliveries.toNat)).max?.getD 0

theorem policyFor_mem (handler : Handler Path) (failure : Failure) :
    handler.policyFor (handler.classify failure) ∈ handler.policies := by
  unfold policyFor policies
  cases ruled : handler.classify failure with
  | none => exact List.mem_cons_self
  | some rule =>
      have listed : rule ∈ handler.rules := List.mem_of_find?_eq_some ruled
      cases override : rule.policy with
      | none => simp [override]
      | some policy =>
          refine List.mem_cons_of_mem _ (List.mem_filterMap.mpr ⟨rule, listed, ?_⟩)
          simp [override]

theorem maxRedeliveries_le {policy : Policy} (listed : policy ∈ handler.policies) :
    policy.maxRedeliveries.toNat ≤ handler.largestBudget :=
  List.le_max?_getD_of_mem (List.mem_map_of_mem listed)

end Handler

/-- No redelivery is made beyond the largest budget. -/
theorem Retries.lt_largestBudget {Path : Type} {handler : Handler Path} {count : Nat}
    {x : Exchange} {failure : Failure} (retries : Retries handler count x failure) :
    count < handler.largestBudget :=
  Nat.lt_of_lt_of_le retries.within
    (Handler.maxRedeliveries_le (handler.policyFor_mem failure))

/-- Whenever it is run it ends: no guard in it is cut short. -/
def Behaviour.Ends {World Work : Type} (behaviour : Behaviour World Work) : Prop :=
  ∀ ⦃pinned x course fate later⦄, behaviour pinned x course = (fate, later) → fate ≠ .unfinished

namespace GuardedRun

variable {World Work : Type} {run : GuardedRun World Work} {count : Count} {number : Nat}
  {fate result : Fate} {later final : Course World Work}

/-! ## Room for the largest budget -/

/-- The count at the entry leaves room for the largest budget. -/
def Roomy (run : GuardedRun World Work) : Prop :=
  run.entered.redelivery.attempts.toNat + run.handler.largestBudget < UInt32.size

/-- Where there is room, no redelivery finds the count at its largest. -/
theorem Roomy.unsaturated (roomy : run.Roomy) : run.Unsaturated := by
  intro number after later failure lap retries
  have within : after.redelivery.attempts.toNat - run.entered.redelivery.attempts.toNat <
      run.handler.largestBudget := retries.lt_largestBudget
  unfold Roomy at roomy
  omega

/-- **A region that lowers no count runs once more than the largest budget at most.** -/
theorem Lap.le_largestBudget (roomy : run.Roomy) (keeps : run.region.Keeps CountKept)
    (lap : run.Lap run.counted number fate later) : number ≤ run.handler.largestBudget := by
  cases number with
  | zero => exact Nat.zero_le _
  | succ number =>
      obtain ⟨after, failure, before, previous, retries⟩ := lap.previous
      have grown := previous.entered_le keeps roomy.unsaturated
      have within : after.redelivery.attempts.toNat - run.entered.redelivery.attempts.toNat <
          run.handler.largestBudget := retries.lt_largestBudget
      omega

/-- One of these runs is the last one. -/
theorem Roomy.exists_concludes (roomy : run.Roomy) (keeps : run.region.Keeps CountKept) :
    ∃ number fate later result final, run.Lap run.counted number fate later ∧
      run.Concludes run.counted number fate later result final := by
  -- By induction on the runs that the largest budget leaves.
  have ends : ∀ (left number : Nat) (fate : Fate) (later : Course World Work),
      run.Lap run.counted number fate later → run.handler.largestBudget - number ≤ left →
      ∃ number fate later result final, run.Lap run.counted number fate later ∧
        run.Concludes run.counted number fate later result final := by
    intro left
    induction left with
    | zero =>
        intro number fate later lap none_left
        rcases run.concludes_or_waits run.counted number fate later with
          ⟨result, final, concludes⟩ | ⟨after, failure, resumed, rfl, retries, waits⟩
        · exact ⟨number, fate, later, result, final, lap, concludes⟩
        · obtain ⟨fate', later', next⟩ := lap.exists_next retries (by rw [waits])
          have bounded := next.le_largestBudget roomy keeps
          omega
    | succ left ih =>
        intro number fate later lap few_left
        rcases run.concludes_or_waits run.counted number fate later with
          ⟨result, final, concludes⟩ | ⟨after, failure, resumed, rfl, retries, waits⟩
        · exact ⟨number, fate, later, result, final, lap, concludes⟩
        · obtain ⟨fate', later', next⟩ := lap.exists_next retries (by rw [waits])
          exact ih (number + 1) fate' later' next (by omega)
  cases gives : run.region run.pinned run.entered run.course with
  | mk fate later => exact ends _ 0 fate later (.first gives) (Nat.le_refl _)

/-- What a guard concludes with is an end, if its region and its handled paths have ends. -/
theorem Concludes.ends (concludes : run.Concludes count number fate later result final)
    (lap : run.Lap count number fate later) (region : run.region.Ends)
    (paths : run.handler.PathsHave Behaviour.Ends) : result ≠ .unfinished := by
  have ended : fate ≠ .unfinished := by
    cases lap with
    | first gives => exact region gives
    | next _ _ _ gives => exact region gives
  cases concludes with
  | stopped _ => exact ended
  | pathStopped _ ruling takes _ =>
      obtain ⟨rule, listed, disposition⟩ := Handler.mem_rules_of_ruling ruling
      exact paths rule listed _ disposition takes
  | _ => exact Fate.noConfusion

/-! ## No room -/

/-- Every run of the region leaves a failure that may be redelivered, with a budget that the count at
the entry leaves no room for. -/
def Insatiable (run : GuardedRun World Work) : Prop :=
  ∀ {number fate later}, run.Lap run.counted number fate later →
    ∃ after failure, fate = .finished after ∧ after.failure = some failure ∧
      after.isRollbackOnly = false ∧ failure.isRollback = false ∧
      Handler.rollsBack (run.handler.classify failure) = false ∧
      Handler.redeliverable (run.handler.classify failure) = true ∧
      UInt32.size ≤ run.entered.redelivery.attempts.toNat +
        (run.handler.policyFor (run.handler.classify failure)).maxRedeliveries.toNat

/-- The count never reaches such a budget. -/
theorem Insatiable.exists_retries (insatiable : run.Insatiable)
    (lap : run.Lap run.counted number fate later) :
    ∃ after failure, fate = .finished after ∧
      Retries run.handler (run.counted number after) after failure := by
  obtain ⟨after, failure, same, failed, unmarked, ordinary, kept, redeliverable, cramped⟩ :=
    insatiable lap
  have bounded := UInt32.toNat_lt_size after.redelivery.attempts
  have entry := UInt32.toNat_lt_size run.entered.redelivery.attempts
  have within : after.redelivery.attempts.toNat - run.entered.redelivery.attempts.toNat <
      (run.handler.policyFor (run.handler.classify failure)).maxRedeliveries.toNat := by
    omega
  exact ⟨after, failure, same, failed, unmarked, ordinary, kept, redeliverable, within⟩

/-- **Where there is no room, the region runs without end.** -/
theorem Insatiable.exists_lap (insatiable : run.Insatiable)
    (undisturbed : run.Undisturbed run.counted) (number : Nat) :
    ∃ fate later, run.Lap run.counted number fate later := by
  induction number with
  | zero =>
      cases gives : run.region run.pinned run.entered run.course with
      | mk fate later => exact ⟨fate, later, .first gives⟩
  | succ number ih =>
      obtain ⟨fate, later, lap⟩ := ih
      obtain ⟨after, failure, rfl, retries⟩ := insatiable.exists_retries lap
      exact lap.exists_next retries (undisturbed lap retries)

/-- However many rounds it is given, the guard has not ended. -/
theorem Insatiable.rounds_unfinished (insatiable : run.Insatiable)
    (undisturbed : run.Undisturbed run.counted) (bound : Nat) :
    (run.rounds bound run.entered run.course).1 = .unfinished := by
  cases bound with
  | zero => rfl
  | succ number =>
      obtain ⟨fate, later, lap⟩ := insatiable.exists_lap undisturbed number
      obtain ⟨after, failure, rfl, retries⟩ := insatiable.exists_retries lap
      have last := rounds_of_lap (faithful_counted run) lap 0
      rw [Nat.zero_add] at last
      rw [last, resume_retries (faithful_counted run) lap retries,
        undisturbed lap retries, if_neg Bool.false_ne_true]
      rfl

/-! ## Guards -/

theorem outside_ends {x : Exchange} {pinned : Bool} (ends : result ≠ .unfinished) :
    outside x pinned result ≠ .unfinished := by
  cases result with
  | unfinished => exact absurd rfl ends
  | finished after => exact Fate.noConfusion
  | panicked panic =>
      simp only [outside]
      split
      · exact Fate.noConfusion
      · exact Fate.noConfusion

/-- How often a guard runs its region, and whether it ends. -/
structure Limited (surroundings : Surroundings World Work) (region : Behaviour World Work)
    (handler : Handler (Behaviour World Work)) (pinned : Bool) (x : Exchange)
    (course : Course World Work) (run : GuardedRun World Work) : Prop where
  /-- Where there is room for the largest budget, the region runs once more than that at most. -/
  few : run.Roomy → ∀ {number fate later}, run.Lap run.counted number fate later →
    number ≤ handler.largestBudget
  /-- One of these runs is the last one, and the guard gives what it concludes with. -/
  last : run.Roomy → ∃ number fate later result final,
    run.Lap run.counted number fate later ∧
      run.Concludes run.counted number fate later result final ∧
      ∀ bound, handler.largestBudget < bound →
        Behaviour.guard surroundings bound region handler pinned x course =
          (outside x pinned result, run.leave final)
  /-- So the guard ends if its region and its handled paths do. -/
  ends : run.Roomy → region.Ends → handler.PathsHave Behaviour.Ends →
    ∀ bound, handler.largestBudget < bound →
      (Behaviour.guard surroundings bound region handler pinned x course).1 ≠ .unfinished
  /-- Where there is no room for the budget of failures that keep coming, it never ends. -/
  endless : run.Insatiable → run.Undisturbed run.counted →
    (∀ number, ∃ fate later, run.Lap run.counted number fate later) ∧
      ∀ bound, (Behaviour.guard surroundings bound region handler pinned x course).1 = .unfinished

/-- **A region that lowers no count runs once more than the largest budget at most, and the guard
ends, as long as the count at the entry leaves room for that budget.** -/
theorem guard_limits (surroundings : Surroundings World Work) (region : Behaviour World Work)
    (handler : Handler (Behaviour World Work)) (pinned : Bool) (x : Exchange)
    (course : Course World Work) (keeps : region.Keeps CountKept) :
    Limited surroundings region handler pinned x course
      (enter surroundings region handler pinned x course) := by
  have gives {number fate later result final} (roomy : Roomy _)
      (lap : (enter surroundings region handler pinned x course).Lap
        (enter surroundings region handler pinned x course).counted number fate later)
      (concludes : (enter surroundings region handler pinned x course).Concludes
        (enter surroundings region handler pinned x course).counted number fate later result final)
      (bound : Nat) (enough : handler.largestBudget < bound) :
      Behaviour.guard surroundings bound region handler pinned x course =
        (outside x pinned result,
         (enter surroundings region handler pinned x course).leave final) :=
    guard_eq surroundings bound region handler pinned x course (rounds_eq (faithful_counted _) lap
      concludes (Nat.lt_of_le_of_lt (lap.le_largestBudget roomy keeps) enough))
  refine ⟨fun roomy _ _ _ lap => lap.le_largestBudget roomy keeps, ?_, ?_, ?_⟩
  · intro roomy
    obtain ⟨number, fate, later, result, final, lap, concludes⟩ := roomy.exists_concludes keeps
    exact ⟨number, fate, later, result, final, lap, concludes, gives roomy lap concludes⟩
  · intro roomy regionEnds pathsEnd bound enough
    obtain ⟨number, fate, later, result, final, lap, concludes⟩ := roomy.exists_concludes keeps
    rw [gives roomy lap concludes bound enough]
    exact outside_ends (concludes.ends lap regionEnds pathsEnd)
  · intro insatiable undisturbed
    refine ⟨insatiable.exists_lap undisturbed, fun bound => ?_⟩
    have cut := insatiable.rounds_unfinished undisturbed bound
    have given := guard_eq surroundings bound region handler pinned x course
      (Prod.ext cut rfl : GuardedRun.rounds _ _ _ _ = (.unfinished, _))
    rw [given]
    rfl

/-- A region that always fails. -/
def alwaysFails : Behaviour Unit Unit :=
  fun _ x course => (.finished (x.withFailure (.step "io" "down")), course)

/-- The guard of one redelivery around it, entered with so many attempts counted. -/
def retriedFrom (attempts : Attempts) : GuardedRun Unit Unit :=
  enter idle alwaysFails
    { id := 0, policy := { Policy.standard with maxRedeliveries := 1 }, rules := [] } false
    { (default : Exchange) with redelivery := { Redelivery.fresh with attempts } }
    (Course.start ())

theorem alwaysFails_keeps : alwaysFails.Keeps CountKept := by
  intro pinned x course after later gives
  obtain ⟨same, _⟩ := Prod.mk.inj gives
  rw [← Fate.finished.inj same]
  exact Nat.le_refl _

theorem retriedFrom_lap {attempts : Attempts} {later : Course Unit Unit}
    (lap : (retriedFrom attempts).Lap (retriedFrom attempts).counted number fate later) :
    ∃ x : Exchange, x.redelivery.rollbackOnly = false ∧
      fate = .finished (x.withFailure (.step "io" "down")) := by
  cases lap with
  | first gives => exact ⟨_, rfl, (congrArg Prod.fst gives).symm⟩
  | @next _ after failure _ _ _ _ _ retries _ gives =>
      exact ⟨again after failure, retries.unmarked, (congrArg Prod.fst gives).symm⟩

theorem retriedFrom_insatiable : (retriedFrom 4294967295).Insatiable := by
  intro number fate later lap
  obtain ⟨x, unmarked, rfl⟩ := retriedFrom_lap lap
  exact ⟨_, _, rfl, rfl, unmarked, rfl, rfl, rfl, by decide⟩

/-- From nothing counted the region runs twice at most and the guard ends; from the largest count it
runs without end. -/
theorem guard_limits_retriedFrom :
    alwaysFails.Keeps CountKept ∧
      (∀ {number fate later}, (retriedFrom 0).Lap (retriedFrom 0).counted number fate later →
        number ≤ 1) ∧
      ∀ number, ∃ fate later,
        (retriedFrom 4294967295).Lap (retriedFrom 4294967295).counted number fate later := by
  refine ⟨alwaysFails_keeps, ?_, ?_⟩
  · have limited := guard_limits (retriedFrom 0).surroundings alwaysFails (retriedFrom 0).handler
      false (retriedFrom 0).entered (Course.start ()) alwaysFails_keeps
    have room : 0 + 1 < UInt32.size := by decide
    intro number fate later lap
    exact limited.few room lap
  · have limited := guard_limits (retriedFrom 0).surroundings alwaysFails (retriedFrom 0).handler
      false (retriedFrom 4294967295).entered (Course.start ()) alwaysFails_keeps
    have undisturbed : (retriedFrom 4294967295).Undisturbed (retriedFrom 4294967295).counted :=
      fun _ _ => delay_undisturbed (fun _ _ => rfl) (fun _ _ _ => rfl)
    exact (limited.endless retriedFrom_insatiable undisturbed).1

end GuardedRun

end Mediation
