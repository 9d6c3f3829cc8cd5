import Mediation.Proofs.Guard.Laps

/-!
# Guards do as the laps say

The rounds of a guard follow the derivation of its laps, as long as they are not cut short by their
bound: after the last run they give what it concludes with (`GuardedRun.rounds_eq`). The count must
be the one that the guard reads off the exchange, which is the exchange's attempts less those it
entered with.
-/

set_option autoImplicit false

namespace Mediation

theorem Attempts.toNat_since (attempts entry : Attempts) :
    (attempts.since entry).toNat = attempts.toNat - entry.toNat := by
  unfold since
  split
  · next le => exact UInt32.toNat_sub_of_le _ _ le
  · next more =>
      have less := UInt32.lt_iff_toNat_lt.mp (UInt32.not_le.mp more)
      rw [Nat.sub_eq_zero_of_le (Nat.le_of_lt less)]
      rfl

/-! ## What a guard decides -/

section Decisions

variable {Path : Type} {handler : Handler Path} {entry : Attempts} {x : Exchange}
  {failure : Failure}

theorem Policy.allows_iff (policy : Policy) (attempts : Attempts) :
    policy.allows attempts = true ↔ attempts.toNat < policy.maxRedeliveries.toNat := by
  rw [Policy.allows, decide_eq_true_iff, UInt32.lt_iff_toNat_lt]

theorem afterRegion_ordinary (failed : x.failure = some failure)
    (unmarked : x.isRollbackOnly = false) (ordinary : failure.isRollback = false)
    (kept : Handler.rollsBack (handler.classify failure) = false) :
    Guard.afterRegion handler entry x =
      Guard.govern handler entry x failure (handler.classify failure) := by
  simp [Guard.afterRegion, failed, unmarked, ordinary, kept]

theorem afterRegion_retries
    (retries : Retries handler (x.redelivery.attempts.since entry).toNat x failure) :
    let spacing := (handler.policyFor (handler.classify failure)).spacing
      (x.redelivery.attempts.since entry + 1)
    Guard.afterRegion handler entry x =
      (.redeliver (x.recordAttempt failure) spacing,
       some (.redelivery failure ((x.recordAttempt failure).redelivery.attempts.since entry)
        spacing)) := by
  rw [afterRegion_ordinary retries.failed retries.unmarked retries.ordinary retries.kept]
  have allowed := (Policy.allows_iff _ _).mpr retries.within
  simp [Guard.govern, retries.redeliverable, allowed]

theorem afterRegion_settles
    (settles : Settles handler (x.redelivery.attempts.since entry).toNat x failure) :
    Guard.afterRegion handler entry x =
      Guard.dispose (x.recordFailure failure) failure
        ((x.recordFailure failure).redelivery.attempts.since entry) (handler.ruling failure) := by
  rw [afterRegion_ordinary settles.failed settles.unmarked settles.ordinary settles.kept]
  have spent : ¬ (Handler.redeliverable (handler.classify failure) &&
      (handler.policyFor (handler.classify failure)).allows
        (x.redelivery.attempts.since entry)) = true := by
    rw [Bool.and_eq_true, Policy.allows_iff]
    exact settles.spent
  simp only [Guard.govern, if_neg spent, Handler.ruling]

theorem afterRegion_rolledBack (failed : x.failure = some failure)
    (rollback : x.isRollbackOnly = true ∨ failure.isRollback = true ∨
      Handler.rollsBack (handler.classify failure) = true) :
    Guard.afterRegion handler entry x = Guard.rollBack x.markRollback := by
  unfold Guard.afterRegion
  rw [failed]
  simp only
  split
  · rfl
  · next neither =>
      have ruled : Handler.rollsBack (handler.classify failure) = true := by
        simp only [Bool.or_eq_true, not_or] at neither
        rcases rollback with marked | asked | ruled
        · exact absurd marked neither.1
        · exact absurd asked neither.2
        · exact ruled
      rw [if_pos ruled]

end Decisions

namespace GuardedRun

variable {World Work : Type} {run : GuardedRun World Work} {count : Count} {number : Nat}
  {fate result : Fate} {later final : Course World Work} {after : Exchange} {failure : Failure}

/-! ## Faithful counts -/

/-- A count that agrees with the exchange whenever the guard looks. -/
structure Faithful (run : GuardedRun World Work) (count : Count) : Prop where
  laps : ∀ {number after later}, run.Lap count number (.finished after) later →
    run.counted number after = count number after
  next : ∀ {number after later failure}, run.Lap count number (.finished after) later →
    Retries run.handler (count number after) after failure →
      run.counted (number + 1) (after.recordAttempt failure) =
        count (number + 1) (after.recordAttempt failure)
  paths : ∀ {number after outcome later final failure path},
    run.Lap count number (.finished after) later →
    run.handler.ruling failure = .handled path →
    path run.pinned (after.recordFailure failure).markHandled.withoutFailure
      (run.note later .handled) = (.finished outcome, final) →
      run.counted number outcome = count number outcome

theorem faithful_counted (run : GuardedRun World Work) : run.Faithful run.counted where
  laps _ := rfl
  next _ _ := rfl
  paths _ _ _ := rfl

theorem toNat_since_entered (run : GuardedRun World Work) (number : Nat) (x : Exchange) :
    (x.redelivery.attempts.since run.entered.redelivery.attempts).toNat = run.counted number x :=
  Attempts.toNat_since _ _

/-- The count that a guard tells of. -/
theorem since_entered (run : GuardedRun World Work) (number : Nat) (x : Exchange) :
    x.redelivery.attempts.since run.entered.redelivery.attempts =
      UInt32.ofNat (run.counted number x) := by
  rw [← run.toNat_since_entered number x, UInt32.ofNat_toNat]

/-! ## Rounds -/

/-- The rounds of a guard, from the moment it is about to run its region. -/
def rounds (run : GuardedRun World Work) :
    Nat → Exchange → Course World Work → Fate × Course World Work :=
  Behaviour.rounds run.surroundings run.handler run.region run.entered.redelivery.attempts
    run.pinned

/-- The rounds of a guard, from the moment its region has run. -/
def resume (run : GuardedRun World Work) (fuel : Nat) :
    Fate × Course World Work → Fate × Course World Work
  | (.finished after, course) =>
    let (next, event) := Guard.afterRegion run.handler run.entered.redelivery.attempts after
    let course := course.noteEvent run.handler.id event
    match next with
    | .leave x => (.finished x, course)
    | .follow x path =>
      match path run.pinned x course with
      | (.finished after, course) =>
        let (x, event) := Guard.afterPath run.entered.redelivery.attempts after
        (.finished x, course.noteEvent run.handler.id event)
      | stopped => stopped
    | .redeliver x spacing =>
      let (interrupted, course) := Behaviour.delay run.surroundings run.handler.id spacing course
      if interrupted then
        let (x, event) := Guard.interrupt run.entered.redelivery.attempts x
        (.finished x, course.noteEvent run.handler.id event)
      else run.rounds fuel x.withoutFailure course
  | stopped => stopped

theorem rounds_succ (run : GuardedRun World Work) (fuel : Nat) (x : Exchange)
    (course : Course World Work) :
    run.rounds (fuel + 1) x course = run.resume fuel (run.region run.pinned x course) := rfl

/-- The wait is the one between the rounds. -/
theorem wait_eq (faithful : run.Faithful count)
    (lap : run.Lap count number (.finished after) later)
    (retries : Retries run.handler (count number after) after failure) :
    run.wait count number after failure later =
      (let entry := run.entered.redelivery.attempts
       let spacing := (run.handler.policyFor (run.handler.classify failure)).spacing
        (after.redelivery.attempts.since entry + 1)
       Behaviour.delay run.surroundings run.handler.id spacing
        (later.noteEvent run.handler.id (some (.redelivery failure
          ((after.recordAttempt failure).redelivery.attempts.since entry) spacing)))) := by
  have number_next : UInt32.ofNat (count number after + 1) =
      after.redelivery.attempts.since run.entered.redelivery.attempts + 1 := by
    rw [run.since_entered number, faithful.laps lap, UInt32.ofNat_add]
    rfl
  have attempt : UInt32.ofNat (count (number + 1) (after.recordAttempt failure)) =
      (after.recordAttempt failure).redelivery.attempts.since
        run.entered.redelivery.attempts := by
    rw [run.since_entered (number + 1), faithful.next lap retries]
  simp only [wait, number_next, attempt]
  rfl

/-- A failure that calls for another run leads to the next round, unless the handler shuts down. -/
theorem resume_retries (faithful : run.Faithful count)
    (lap : run.Lap count number (.finished after) later)
    (retries : Retries run.handler (count number after) after failure) (fuel : Nat) :
    run.resume fuel (.finished after, later) =
      if (run.wait count number after failure later).1 then
        let (x, event) := Guard.interrupt run.entered.redelivery.attempts
          (after.recordAttempt failure)
        (.finished x,
          (run.wait count number after failure later).2.noteEvent run.handler.id event)
      else run.rounds fuel (again after failure) (run.wait count number after failure later).2 := by
  have within : Retries run.handler
      (after.redelivery.attempts.since run.entered.redelivery.attempts).toNat after failure := by
    rw [run.toNat_since_entered number, faithful.laps lap]
    exact retries
  rw [wait_eq faithful lap retries]
  simp only [resume, afterRegion_retries within]
  rfl

/-- **The rounds run the region as often as there are laps.** -/
theorem rounds_of_lap (faithful : run.Faithful count) (lap : run.Lap count number fate later)
    (fuel : Nat) :
    run.rounds (fuel + number + 1) run.entered run.course = run.resume fuel (fate, later) := by
  induction lap generalizing fuel with
  | first gives => rw [run.rounds_succ, gives]
  | @next number after failure fate later resumed final before retries waits gives ih =>
      have shape : fuel + (number + 1) + 1 = (fuel + 1) + number + 1 := by omega
      rw [shape, ih, resume_retries faithful before retries, waits, if_neg (by simp),
        run.rounds_succ, gives]

/-- A failure that settles goes to its ruling. -/
theorem afterRegion_of_settles (faithful : run.Faithful count)
    (lap : run.Lap count number (.finished after) later)
    (settles : Settles run.handler (count number after) after failure) :
    Guard.afterRegion run.handler run.entered.redelivery.attempts after =
      Guard.dispose (after.recordFailure failure) failure (UInt32.ofNat (count number after))
        (run.handler.ruling failure) := by
  have spent : Settles run.handler
      (after.redelivery.attempts.since run.entered.redelivery.attempts).toNat after failure := by
    rw [run.toNat_since_entered number, faithful.laps lap]
    exact settles
  rw [afterRegion_settles spent]
  have same : (after.recordFailure failure).redelivery.attempts = after.redelivery.attempts := rfl
  rw [same, run.since_entered number, faithful.laps lap]

theorem resume_handled (faithful : run.Faithful count)
    (lap : run.Lap count number (.finished after) later)
    (settles : Settles run.handler (count number after) after failure)
    {path : Behaviour World Work} (ruling : run.handler.ruling failure = .handled path)
    (fuel : Nat) :
    run.resume fuel (.finished after, later) =
      match path run.pinned (after.recordFailure failure).markHandled.withoutFailure
        (run.note later .handled) with
      | (.finished outcome, course) =>
        let (x, event) := Guard.afterPath run.entered.redelivery.attempts outcome
        (.finished x, course.noteEvent run.handler.id event)
      | stopped => stopped := by
  simp only [resume, afterRegion_of_settles faithful lap settles, ruling, Guard.dispose]
  rfl

theorem afterPath_passes {entry : Attempts} {outcome : Exchange}
    (passes : ∀ cause, outcome.failure = some cause →
      cause.isExhausted = true ∨ cause.isRollback = true) :
    Guard.afterPath entry outcome = (outcome, none) := by
  cases failed : outcome.failure with
  | none => simp [Guard.afterPath, failed]
  | some cause => simp [Guard.afterPath, failed, passes cause failed]

/-- **After the last run the rounds give what it concludes with.** -/
theorem resume_concludes (faithful : run.Faithful count) (lap : run.Lap count number fate later)
    (concludes : run.Concludes count number fate later result final) (fuel : Nat) :
    run.resume fuel (fate, later) = (result, final) := by
  cases concludes with
  | stopped apart =>
      cases fate with
      | finished after => exact absurd rfl (apart after)
      | panicked panic => rfl
      | unfinished => rfl
  | passed failed unmarked => simp [resume, Guard.afterRegion, failed, unmarked, Course.noteEvent]
  | marked failed marked =>
      simp [resume, Guard.afterRegion, failed, marked, Guard.rollBack, Course.noteEvent, note]
  | rolledBack failed rollback =>
      simp only [resume, afterRegion_rolledBack failed rollback]
      rfl
  | interrupted retries waits =>
      rw [resume_retries faithful lap retries, waits, if_pos rfl]
      simp only [Guard.interrupt, run.since_entered (number + 1), faithful.next lap retries]
      rfl
  | continued settles ruling =>
      simp only [resume, afterRegion_of_settles faithful lap settles, ruling, Guard.dispose]
      rfl
  | exhausted settles ruling =>
      simp only [resume, afterRegion_of_settles faithful lap settles, ruling, Guard.dispose]
      rfl
  | pathStopped settles ruling takes apart =>
      rw [resume_handled faithful lap settles ruling, takes]
      cases result with
      | finished outcome => exact absurd rfl (apart outcome)
      | panicked panic => rfl
      | unfinished => rfl
  | pathPassed settles ruling takes passes =>
      rw [resume_handled faithful lap settles ruling, takes]
      simp only [afterPath_passes passes]
      rfl
  | pathFailed settles ruling takes failed gaveUp ordinary =>
      have count_after := faithful.paths lap ruling takes
      rw [resume_handled faithful lap settles ruling, takes]
      simp only [Guard.afterPath, failed, gaveUp, ordinary, Bool.or_self, Bool.false_eq_true,
        if_false, run.since_entered number, count_after]
      rfl

/-- **A guard does as the laps say**: given enough rounds, its last run is the one that
concludes. -/
theorem rounds_eq (faithful : run.Faithful count) (lap : run.Lap count number fate later)
    (concludes : run.Concludes count number fate later result final) {bound : Nat}
    (enough : number < bound) :
    run.rounds bound run.entered run.course = (result, final) := by
  have shape : bound = (bound - number - 1) + number + 1 := by omega
  rw [shape, rounds_of_lap faithful lap]
  exact resume_concludes faithful lap concludes _

/-! ## Guards -/

/-- The run of a guard that an exchange enters. A transacted one runs its region pinned. -/
def enter (surroundings : Surroundings World Work) (region : Behaviour World Work)
    (handler : Handler (Behaviour World Work)) (pinned : Bool) (x : Exchange)
    (course : Course World Work) : GuardedRun World Work where
  surroundings := surroundings
  handler := handler
  region := region
  pinned := pinned || x.transacted
  entered := x
  course := (course.change (surroundings.enter handler.id)).note (.entered handler.id x)

/-- How a guarded run ends for whoever ran the guard: a panic does not leave the thread that the
exchange was pinned to. -/
def outside (x : Exchange) (pinned : Bool) : Fate → Fate
  | .panicked panic =>
    if x.transacted && !pinned then .finished (x.withFailure panic.joinFailure) else .panicked panic
  | other => other

/-- The course on which a guarded run leaves. -/
def leave (run : GuardedRun World Work) (final : Course World Work) : Course World Work :=
  (final.change (run.surroundings.leave run.handler.id)).note (.left run.handler.id)

theorem guard_eq (surroundings : Surroundings World Work) (bound : Nat)
    (region : Behaviour World Work) (handler : Handler (Behaviour World Work)) (pinned : Bool)
    (x : Exchange) (course : Course World Work) {result : Fate} {final : Course World Work}
    (rounds : (enter surroundings region handler pinned x course).rounds bound x
      (enter surroundings region handler pinned x course).course = (result, final)) :
    Behaviour.guard surroundings bound region handler pinned x course =
      (outside x pinned result,
       (enter surroundings region handler pinned x course).leave final) := by
  have guarded : Behaviour.guarded surroundings bound handler region (pinned || x.transacted) x
      course = (result, (enter surroundings region handler pinned x course).leave final) := by
    have same : Behaviour.rounds surroundings handler region x.redelivery.attempts
        (pinned || x.transacted) bound x
        ((course.change (surroundings.enter handler.id)).note (.entered handler.id x)) =
        (result, final) := rounds
    simp only [Behaviour.guarded, same]
    rfl
  cases transacted : x.transacted with
  | false =>
      rw [transacted, Bool.or_false] at guarded
      simp only [Behaviour.guard, transacted, guarded]
      cases result <;> simp [outside, transacted]
  | true =>
      cases pinned with
      | true =>
          simp only [Bool.true_or] at guarded
          simp only [Behaviour.guard, guarded]
          cases result <;> simp [outside]
      | false =>
          rw [transacted] at guarded
          simp only [Bool.or_true] at guarded
          simp only [Behaviour.guard, Behaviour.pinnedApart, transacted, guarded]
          cases result <;> simp [outside, transacted]

end GuardedRun

end Mediation
