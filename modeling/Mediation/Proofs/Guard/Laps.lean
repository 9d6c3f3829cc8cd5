import Mediation.Delivery.Basic

/-!
# The runs of a guarded region

A guard runs its region, again and again. `GuardedRun.Lap` derives what each of these runs gives,
counted from zero, from the rules under which another one follows (`Retries`), and
`GuardedRun.Concludes` what becomes of the last one. Both are told from outside: they do not mention
the bound on the rounds, and the number of redeliveries that a guard goes by is a parameter, the
`Count`. If the count is the one the guard reads off the exchange (`GuardedRun.Faithful`), the
guard does as they say (`rounds_eq`).
-/

set_option autoImplicit false

namespace Mediation

/-! ## When a region runs again -/

section Rules

variable {Path : Type}

/-- A failure calls for another run: it is no rollback, in any of the three ways, it may be
redelivered, and the policy for it allows one more. -/
structure Retries (handler : Handler Path) (count : Nat) (x : Exchange) (failure : Failure) :
    Prop where
  failed : x.failure = some failure
  unmarked : x.isRollbackOnly = false
  ordinary : failure.isRollback = false
  kept : Handler.rollsBack (handler.classify failure) = false
  redeliverable : Handler.redeliverable (handler.classify failure) = true
  within : count < (handler.policyFor (handler.classify failure)).maxRedeliveries.toNat

/-- A failure is no rollback, but does not call for another run. -/
structure Settles (handler : Handler Path) (count : Nat) (x : Exchange) (failure : Failure) :
    Prop where
  failed : x.failure = some failure
  unmarked : x.isRollbackOnly = false
  ordinary : failure.isRollback = false
  kept : Handler.rollsBack (handler.classify failure) = false
  spent : ¬ (Handler.redeliverable (handler.classify failure) = true ∧
    count < (handler.policyFor (handler.classify failure)).maxRedeliveries.toNat)

/-- What the first rule that applies makes of a failure in the end. -/
def Handler.ruling (handler : Handler Path) (failure : Failure) : Disposition Path :=
  ((handler.classify failure).map (·.disposition)).getD .propagate

theorem Handler.ruling_ne_rollback {handler : Handler Path} {failure : Failure}
    (kept : Handler.rollsBack (handler.classify failure) = false) :
    handler.ruling failure ≠ .rollback := by
  unfold ruling
  cases ruled : handler.classify failure with
  | none => simp
  | some rule =>
      obtain ⟨name, applies, disposition, policy, redeliverable⟩ := rule
      rw [ruled] at kept
      cases disposition with
      | rollback => simp [rollsBack] at kept
      | propagate => simp
      | handled path => simp
      | continued => simp

/-- The exchange that a region runs on again: without its failure, which is remembered. -/
def again (x : Exchange) (failure : Failure) : Exchange := (x.recordAttempt failure).withoutFailure

theorem Retries.unsettled {handler : Handler Path} {count : Nat} {x : Exchange}
    {failure other : Failure} (retries : Retries handler count x failure) :
    ¬ Settles handler count x other := by
  intro settles
  have same := retries.failed.symm.trans settles.failed
  rw [Option.some_inj] at same
  subst same
  exact settles.spent ⟨retries.redeliverable, retries.within⟩

/-- A failure that is no rollback settles unless it calls for another run. -/
theorem settles_of_not_retries {handler : Handler Path} {count : Nat} {x : Exchange}
    {failure : Failure} (failed : x.failure = some failure) (unmarked : x.isRollbackOnly = false)
    (ordinary : failure.isRollback = false)
    (kept : Handler.rollsBack (handler.classify failure) = false)
    (declined : ¬ Retries handler count x failure) : Settles handler count x failure :=
  ⟨failed, unmarked, ordinary, kept, fun both =>
    declined ⟨failed, unmarked, ordinary, kept, both.1, both.2⟩⟩

end Rules

/-- A run of a guard. -/
structure GuardedRun (World Work : Type) where
  surroundings : Surroundings World Work
  handler : Handler (Behaviour World Work)
  region : Behaviour World Work
  /-- Whether its region runs pinned. -/
  pinned : Bool
  /-- The exchange that enters it. -/
  entered : Exchange
  /-- The course it enters on. -/
  course : Course World Work

/-- A way to count redeliveries: how many there were when a run of the region, given by its number,
gave an exchange back. -/
abbrev Count : Type := Nat → Exchange → Nat

/-- Every run after the first is a redelivery. -/
def Count.own : Count := fun number _ => number

namespace GuardedRun

variable {World Work : Type} (run : GuardedRun World Work) (count : Count)

/-- The redeliveries that the exchange has counted since it entered. -/
def counted : Count := fun _ x =>
  x.redelivery.attempts.toNat - run.entered.redelivery.attempts.toNat

/-- What a guard notes. -/
def note (later : Course World Work) (event : Guard.Event) : Course World Work :=
  later.note (.guarded run.handler.id event)

/-- The wait before the run after the one of a number, and whether the handler shuts down in it. It
takes as long as the policy says, jitter included. -/
def wait (number : Nat) (after : Exchange) (failure : Failure) (later : Course World Work) :
    Bool × Course World Work :=
  let policy := run.handler.policyFor (run.handler.classify failure)
  let spacing := policy.spacing (UInt32.ofNat (count number after + 1))
  let attempt := UInt32.ofNat (count (number + 1) (after.recordAttempt failure))
  Behaviour.delay run.surroundings run.handler.id spacing
    (run.note later (.redelivery failure attempt spacing))

/-- **What the run of a number gives.** Another one follows if the failure calls for it and the
handler does not shut down first. -/
inductive Lap : Nat → Fate → Course World Work → Prop
  | first {fate : Fate} {later : Course World Work} :
      run.region run.pinned run.entered run.course = (fate, later) → Lap 0 fate later
  | next {number : Nat} {after : Exchange} {failure : Failure} {fate : Fate}
      {later resumed final : Course World Work} :
      Lap number (.finished after) later →
      Retries run.handler (count number after) after failure →
      run.wait count number after failure later = (false, resumed) →
      run.region run.pinned (again after failure) resumed = (fate, final) →
        Lap (number + 1) fate final

/-- **What becomes of the last run**, given by its number and by what it gave. -/
inductive Concludes (number : Nat) : Fate → Course World Work → Fate → Course World Work → Prop
  | stopped {fate : Fate} {later : Course World Work} :
      (∀ after, fate ≠ .finished after) → Concludes number fate later fate later
  | passed {after : Exchange} {later : Course World Work} :
      after.failure = none → after.isRollbackOnly = false →
        Concludes number (.finished after) later (.finished after) later
  | marked {after : Exchange} {later : Course World Work} :
      after.failure = none → after.isRollbackOnly = true →
        Concludes number (.finished after) later (.finished after) (run.note later .rolledBack)
  | rolledBack {after : Exchange} {later : Course World Work} {failure : Failure} :
      after.failure = some failure →
      (after.isRollbackOnly = true ∨ failure.isRollback = true ∨
        Handler.rollsBack (run.handler.classify failure) = true) →
        Concludes number (.finished after) later (.finished after.markRollback)
          (run.note later .rolledBack)
  | interrupted {after : Exchange} {later resumed : Course World Work} {failure : Failure} :
      Retries run.handler (count number after) after failure →
      run.wait count number after failure later = (true, resumed) →
        Concludes number (.finished after) later
          (.finished ((after.recordAttempt failure).withFailure
            (Guard.interruption (after.recordAttempt failure)
              (UInt32.ofNat (count (number + 1) (after.recordAttempt failure))))))
          (run.note resumed
            (.interrupted (UInt32.ofNat (count (number + 1) (after.recordAttempt failure)))))
  | continued {after : Exchange} {later : Course World Work} {failure : Failure} :
      Settles run.handler (count number after) after failure →
      run.handler.ruling failure = .continued →
        Concludes number (.finished after) later
          (.finished (after.recordFailure failure).markContinued.withoutFailure)
          (run.note later .continued)
  | exhausted {after : Exchange} {later : Course World Work} {failure : Failure} :
      Settles run.handler (count number after) after failure →
      run.handler.ruling failure = .propagate →
        Concludes number (.finished after) later
          (.finished ((after.recordFailure failure).withFailure
            (.exhausted (UInt32.ofNat (count number after)) failure)))
          (run.note later (.exhausted (UInt32.ofNat (count number after))))
  | pathStopped {after : Exchange} {later final : Course World Work} {failure : Failure}
      {path : Behaviour World Work} {fate : Fate} :
      Settles run.handler (count number after) after failure →
      run.handler.ruling failure = .handled path →
      path run.pinned (after.recordFailure failure).markHandled.withoutFailure
        (run.note later .handled) = (fate, final) →
      (∀ outcome, fate ≠ .finished outcome) →
        Concludes number (.finished after) later fate final
  | pathPassed {after outcome : Exchange} {later final : Course World Work} {failure : Failure}
      {path : Behaviour World Work} :
      Settles run.handler (count number after) after failure →
      run.handler.ruling failure = .handled path →
      path run.pinned (after.recordFailure failure).markHandled.withoutFailure
        (run.note later .handled) = (.finished outcome, final) →
      (∀ cause, outcome.failure = some cause → cause.isExhausted = true ∨ cause.isRollback = true) →
        Concludes number (.finished after) later (.finished outcome) final
  | pathFailed {after outcome : Exchange} {later final : Course World Work}
      {failure cause : Failure} {path : Behaviour World Work} :
      Settles run.handler (count number after) after failure →
      run.handler.ruling failure = .handled path →
      path run.pinned (after.recordFailure failure).markHandled.withoutFailure
        (run.note later .handled) = (.finished outcome, final) →
      outcome.failure = some cause → cause.isExhausted = false → cause.isRollback = false →
        Concludes number (.finished after) later
          (.finished (outcome.withFailure (.exhausted (UInt32.ofNat (count number outcome)) cause)))
          (run.note final (.pathFailed (UInt32.ofNat (count number outcome))))

variable {run count} {number other : Nat} {fate fate' result : Fate}
  {later later' resumed final : Course World Work} {after : Exchange} {failure : Failure}

/-! ## Laps -/

/-- **A run of a number gives one thing.** -/
theorem Lap.unique (lap : run.Lap count number fate later)
    (again : run.Lap count number fate' later') :
    fate = fate' ∧ later = later' := by
  induction lap generalizing fate' later' with
  | first gives =>
      cases again with
      | first givesToo =>
          rw [gives] at givesToo
          exact Prod.mk.inj givesToo
  | next before retries waits gives ih =>
      cases again with
      | next beforeToo retriesToo waitsToo givesToo =>
          obtain ⟨same, rfl⟩ := ih beforeToo
          obtain rfl := Fate.finished.inj same
          have oneFailure := retries.failed.symm.trans retriesToo.failed
          rw [Option.some_inj] at oneFailure
          subst oneFailure
          rw [waits] at waitsToo
          obtain ⟨_, rfl⟩ := Prod.mk.inj waitsToo
          rw [gives] at givesToo
          exact Prod.mk.inj givesToo

/-- A run that is followed by another one gave the exchange back, and its failure called for it. -/
theorem Lap.previous (lap : run.Lap count (number + 1) fate later) :
    ∃ after failure before, run.Lap count number (.finished after) before ∧
      Retries run.handler (count number after) after failure := by
  cases lap with
  | next before retries _ _ => exact ⟨_, _, _, before, retries⟩

/-- All runs before a run happened. -/
theorem Lap.exists_of_le (lap : run.Lap count number fate later) {earlier : Nat}
    (le : earlier ≤ number) : ∃ fate later, run.Lap count earlier fate later := by
  induction number generalizing fate later with
  | zero =>
      obtain rfl := Nat.le_zero.mp le
      exact ⟨fate, later, lap⟩
  | succ number ih =>
      rcases Nat.lt_or_eq_of_le le with less | rfl
      · obtain ⟨after, _, before, previous, _⟩ := lap.previous
        exact ih previous (Nat.le_of_lt_succ less)
      · exact ⟨fate, later, lap⟩

/-- A run of the region that gave an exchange back is followed by another one as soon as its failure
calls for it. -/
theorem Lap.exists_next (lap : run.Lap count number (.finished after) later)
    (retries : Retries run.handler (count number after) after failure)
    (undisturbed : (run.wait count number after failure later).1 = false) :
    ∃ fate final, run.Lap count (number + 1) fate final := by
  cases waits : run.wait count number after failure later with
  | mk interrupted resumed =>
      rw [waits] at undisturbed
      rw [show interrupted = false from undisturbed] at waits
      cases gives : run.region run.pinned (again after failure) resumed with
      | mk fate final => exact ⟨fate, final, lap.next retries waits gives⟩

/-- What settles is the end of the guarded run. -/
theorem concludes_of_settles (run : GuardedRun World Work) (count : Count) (number : Nat)
    (later : Course World Work) (settles : Settles run.handler (count number after) after failure) :
    ∃ result final, run.Concludes count number (.finished after) later result final := by
  cases disposition : run.handler.ruling failure with
  | propagate => exact ⟨_, _, .exhausted settles disposition⟩
  | continued => exact ⟨_, _, .continued settles disposition⟩
  | rollback => exact absurd disposition (Handler.ruling_ne_rollback settles.kept)
  | handled path =>
      cases takes : path run.pinned (after.recordFailure failure).markHandled.withoutFailure
        (run.note later .handled) with
      | mk fate final =>
          cases fate with
          | panicked panic =>
              exact ⟨_, _, .pathStopped settles disposition takes fun outcome => Fate.noConfusion⟩
          | unfinished =>
              exact ⟨_, _, .pathStopped settles disposition takes fun outcome => Fate.noConfusion⟩
          | finished outcome =>
              cases failed : outcome.failure with
              | none =>
                  exact ⟨_, _, .pathPassed settles disposition takes (by simp [failed])⟩
              | some cause =>
                  cases gaveUp : cause.isExhausted with
                  | true =>
                      exact ⟨_, _, .pathPassed settles disposition takes (by simp [failed, gaveUp])⟩
                  | false =>
                      cases rollback : cause.isRollback with
                      | true =>
                          exact ⟨_, _, .pathPassed settles disposition takes
                            (by simp [failed, rollback])⟩
                      | false =>
                          exact ⟨_, _, .pathFailed settles disposition takes failed gaveUp rollback⟩

/-- **What follows a run.** Either it is the last one, or the region runs again. -/
theorem concludes_or_waits (run : GuardedRun World Work) (count : Count) (number : Nat)
    (fate : Fate) (later : Course World Work) :
    (∃ result final, run.Concludes count number fate later result final) ∨
      ∃ after failure resumed, fate = .finished after ∧
        Retries run.handler (count number after) after failure ∧
        run.wait count number after failure later = (false, resumed) := by
  cases fate with
  | panicked panic => exact .inl ⟨_, _, .stopped fun after => Fate.noConfusion⟩
  | unfinished => exact .inl ⟨_, _, .stopped fun after => Fate.noConfusion⟩
  | finished after =>
      cases failed : after.failure with
      | none =>
          cases marked : after.isRollbackOnly with
          | true => exact .inl ⟨_, _, .marked failed marked⟩
          | false => exact .inl ⟨_, _, .passed failed marked⟩
      | some failure =>
          by_cases rollback : after.isRollbackOnly = true ∨ failure.isRollback = true ∨
              Handler.rollsBack (run.handler.classify failure) = true
          · exact .inl ⟨_, _, .rolledBack failed rollback⟩
          · simp only [not_or, Bool.not_eq_true] at rollback
            obtain ⟨unmarked, ordinary, kept⟩ := rollback
            by_cases retries : Retries run.handler (count number after) after failure
            · cases waits : run.wait count number after failure later with
              | mk interrupted resumed =>
                  cases interrupted with
                  | true => exact .inl ⟨_, _, .interrupted retries waits⟩
                  | false => exact .inr ⟨after, failure, resumed, rfl, retries, waits⟩
            · exact .inl (run.concludes_of_settles count number later
                (settles_of_not_retries failed unmarked ordinary kept retries))

end GuardedRun

end Mediation
