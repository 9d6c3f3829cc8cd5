import Mediation.Proofs.Guard.Rounds

/-!
# What a guard means

For a region that leaves the attempt count alone, a guard has a plain meaning: the region runs
again exactly when its failure calls for it and the budget for that failure, counted in runs of this
guard, is not spent (`guard_meaning`). The count of the exchange is then the count of the runs,
which is where the guard reads it.
-/

set_option autoImplicit false

namespace Mediation

/-- It gives an exchange back with the attempt count it came with. -/
def Behaviour.Steady {World Work : Type} (behaviour : Behaviour World Work) : Prop :=
  ∀ {pinned x course after later}, behaviour pinned x course = (.finished after, later) →
    after.redelivery.attempts = x.redelivery.attempts

theorem Attempts.toNat_next {attempts : Attempts} (fits : attempts.toNat + 1 < UInt32.size) :
    attempts.next.toNat = attempts.toNat + 1 := by
  have small : attempts ≠ 4294967295 := by
    rintro rfl
    simp at fits
  rw [next, if_neg small, UInt32.toNat_add]
  exact Nat.mod_eq_of_lt fits

/-- A handled path stands in one of the rules. -/
theorem Handler.mem_rules_of_ruling {Path : Type} {handler : Handler Path} {failure : Failure}
    {path : Path} (ruling : handler.ruling failure = .handled path) :
    ∃ rule ∈ handler.rules, rule.disposition = .handled path := by
  unfold Handler.ruling at ruling
  cases found : handler.classify failure with
  | none => simp [found] at ruling
  | some rule =>
      rw [found] at ruling
      exact ⟨rule, List.mem_of_find?_eq_some found, ruling⟩

namespace GuardedRun

variable {World Work : Type} {run : GuardedRun World Work} {count : Count} {number : Nat}
  {fate result : Fate} {later final : Course World Work} {after : Exchange} {failure : Failure}

/-! ## The last run -/

/-- A run that concludes is the last one. -/
theorem Concludes.last (concludes : run.Concludes count number fate later result final)
    (lap : run.Lap count number fate later) {fate' : Fate} {later' : Course World Work} :
    ¬ run.Lap count (number + 1) fate' later' := by
  intro next
  cases next with
  | next before retries waits gives =>
      obtain ⟨rfl, rfl⟩ := lap.unique before
      cases concludes with
      | stopped apart => exact apart _ rfl
      | passed failed _ => simp [retries.failed] at failed
      | marked failed _ => simp [retries.failed] at failed
      | rolledBack failed rollback =>
          have same := retries.failed.symm.trans failed
          rw [Option.some_inj] at same
          subst same
          simp [retries.unmarked, retries.ordinary, retries.kept] at rollback
      | interrupted again disturbed =>
          have same := retries.failed.symm.trans again.failed
          rw [Option.some_inj] at same
          subst same
          rw [waits] at disturbed
          simp at disturbed
      | continued settles _ => exact retries.unsettled settles
      | exhausted settles _ => exact retries.unsettled settles
      | pathStopped settles _ _ _ => exact retries.unsettled settles
      | pathPassed settles _ _ _ => exact retries.unsettled settles
      | pathFailed settles _ _ _ _ _ => exact retries.unsettled settles

/-- The laps are numbered up to the one that concludes. -/
theorem Concludes.exists_lap_iff (concludes : run.Concludes count number fate later result final)
    (lap : run.Lap count number fate later) (other : Nat) :
    (∃ fate later, run.Lap count other fate later) ↔ other ≤ number := by
  constructor
  · rintro ⟨fate', later', there⟩
    refine Nat.le_of_not_lt fun beyond => ?_
    obtain ⟨_, _, next⟩ := there.exists_of_le beyond
    exact concludes.last lap next
  · exact lap.exists_of_le

/-- No wait of the guarded run is cut short by a shutdown. -/
def Undisturbed (run : GuardedRun World Work) (count : Count) : Prop :=
  ∀ {number after later failure}, run.Lap count number (.finished after) later →
    Retries run.handler (count number after) after failure →
      (run.wait count number after failure later).1 = false

/-- Where no handler ever shuts down, no wait is cut short. -/
theorem delay_undisturbed {surroundings : Surroundings World Work}
    (silent : ∀ handler world, surroundings.signalled handler world = false)
    (patient : ∀ handler time world, (surroundings.pause handler time world).1 = false)
    {handler : HandlerId} {spacing : Spacing} {course : Course World Work} :
    (Behaviour.delay surroundings handler spacing course).1 = false := by
  simp only [Behaviour.delay, silent]
  cases (spacing.time (surroundings.scale course.world)).isZero with
  | true => rfl
  | false => exact patient handler _ course.world

/-- **Another run follows exactly when the failure calls for it.** -/
theorem Concludes.exists_retries_iff (undisturbed : run.Undisturbed count)
    (concludes : run.Concludes count number fate later result final)
    (lap : run.Lap count number fate later) {other : Nat} {before : Course World Work}
    (there : run.Lap count other (.finished after) before) :
    (∃ failure, Retries run.handler (count other after) after failure) ↔ other < number := by
  constructor
  · rintro ⟨failure, retries⟩
    exact (concludes.exists_lap_iff lap (other + 1)).mp
      (there.exists_next retries (undisturbed there retries))
  · intro less
    obtain ⟨_, _, next⟩ := (concludes.exists_lap_iff lap (other + 1)).mpr less
    obtain ⟨after', failure, before', previous, retries⟩ := next.previous
    obtain ⟨same, _⟩ := previous.unique there
    rw [Fate.finished.inj same] at retries
    exact ⟨failure, retries⟩

/-- Counted in runs, redelivery comes to an end: no policy allows more than a count can hold. -/
theorem exists_concludes (run : GuardedRun World Work) :
    ∃ number fate later result final, run.Lap .own number fate later ∧
      run.Concludes .own number fate later result final := by
  -- By induction on what is left to the number of runs below every budget there can be.
  have ends : ∀ (left number : Nat) (fate : Fate) (later : Course World Work),
      run.Lap .own number fate later → UInt32.size - number ≤ left →
      ∃ number fate later result final, run.Lap .own number fate later ∧
        run.Concludes .own number fate later result final := by
    intro left
    induction left with
    | zero =>
        intro number fate later lap none_left
        rcases run.concludes_or_waits .own number fate later with
          ⟨result, final, concludes⟩ | ⟨after, failure, resumed, rfl, retries, _⟩
        · exact ⟨number, fate, later, result, final, lap, concludes⟩
        · have within : number < _ := retries.within
          have bounded := UInt32.toNat_lt_size (run.handler.policyFor
            (run.handler.classify failure)).maxRedeliveries
          omega
    | succ left ih =>
        intro number fate later lap few_left
        rcases run.concludes_or_waits .own number fate later with
          ⟨result, final, concludes⟩ | ⟨after, failure, resumed, rfl, retries, waits⟩
        · exact ⟨number, fate, later, result, final, lap, concludes⟩
        · obtain ⟨fate', later', next⟩ := lap.exists_next retries (by rw [waits])
          exact ih (number + 1) fate' later' next (by omega)
  cases gives : run.region run.pinned run.entered run.course with
  | mk fate later => exact ends _ 0 fate later (.first gives) (Nat.le_refl _)

/-! ## Steady regions -/

/-- What the plain meaning of a guard relies on. -/
structure Plain (run : GuardedRun World Work) : Prop where
  /-- The region leaves the attempt count alone. -/
  region : run.region.Steady
  /-- So does every handled path. -/
  paths : ∀ rule ∈ run.handler.rules, ∀ path, rule.disposition = .handled path → path.Steady
  /-- The handler does not shut down. -/
  undisturbed : run.Undisturbed .own
  /-- The attempt count never reaches the largest one with a redelivery to come. -/
  unsaturated : ∀ {number fate later}, run.Lap .own number fate later →
    run.entered.redelivery.attempts.toNat + number < UInt32.size

/-- **Every run gives back what the runs before it have counted.** -/
theorem Plain.attempts (plain : run.Plain) (lap : run.Lap .own number (.finished after) later) :
    after.redelivery.attempts.toNat = run.entered.redelivery.attempts.toNat + number := by
  generalize given : Fate.finished after = fate at lap
  induction lap generalizing after with
  | first gives =>
      subst given
      rw [plain.region gives]
      rfl
  | @next number before failure fate later resumed final previous retries waits gives ih =>
      subst given
      have fits := plain.unsaturated (previous.next retries waits gives)
      have counts := ih rfl
      rw [plain.region gives]
      change before.redelivery.attempts.next.toNat = _
      rw [Attempts.toNat_next (by omega), counts]
      omega

/-- A redelivery is counted. -/
theorem Plain.attempts_again (plain : run.Plain)
    (lap : run.Lap .own number (.finished after) later)
    (retries : Retries run.handler number after failure) :
    (again after failure).redelivery.attempts.toNat =
      run.entered.redelivery.attempts.toNat + (number + 1) := by
  have counts := plain.attempts lap
  obtain ⟨fate, final, next⟩ := lap.exists_next retries (plain.undisturbed lap retries)
  have fits := plain.unsaturated next
  change after.redelivery.attempts.next.toNat = _
  rw [Attempts.toNat_next (by omega), counts]
  omega

/-- A handled path gives the count back too. -/
theorem Plain.attempts_path (plain : run.Plain)
    (lap : run.Lap .own number (.finished after) later) {path : Behaviour World Work}
    (ruling : run.handler.ruling failure = .handled path) {outcome : Exchange}
    (takes : path run.pinned (after.recordFailure failure).markHandled.withoutFailure
      (run.note later .handled) = (.finished outcome, final)) :
    outcome.redelivery.attempts.toNat = run.entered.redelivery.attempts.toNat + number := by
  obtain ⟨rule, listed, disposition⟩ := Handler.mem_rules_of_ruling ruling
  have counts := plain.attempts lap
  rw [plain.paths rule listed path disposition takes]
  exact counts

/-- **The guard reads the number of its runs off the exchange.** -/
theorem Plain.faithful (plain : run.Plain) : run.Faithful .own where
  laps lap := by
    have counts := plain.attempts lap
    simp only [counted, Count.own]
    omega
  next lap retries := by
    have counts := plain.attempts_again lap retries
    change (again _ _).redelivery.attempts.toNat - _ = _
    simp only [Count.own]
    omega
  paths lap ruling takes := by
    have counts := plain.attempts_path lap ruling takes
    simp only [counted, Count.own]
    omega

/-- However the last run concludes, the count is what it was after it. -/
theorem Plain.attempts_concludes (plain : run.Plain) (lap : run.Lap .own number fate later)
    (concludes : run.Concludes .own number fate later (.finished after) final) :
    after.redelivery.attempts.toNat = run.entered.redelivery.attempts.toNat + number := by
  cases concludes with
  | stopped apart => exact absurd rfl (apart after)
  | passed _ _ => exact plain.attempts lap
  | marked _ _ => exact plain.attempts lap
  | rolledBack _ _ =>
      have counts := plain.attempts lap
      exact counts
  | interrupted retries waits =>
      have calm := plain.undisturbed lap retries
      rw [waits] at calm
      simp at calm
  | continued _ _ =>
      have counts := plain.attempts lap
      exact counts
  | exhausted _ _ =>
      have counts := plain.attempts lap
      exact counts
  | pathStopped _ _ _ apart => exact absurd rfl (apart after)
  | pathPassed _ ruling takes _ => exact plain.attempts_path lap ruling takes
  | pathFailed _ ruling takes _ _ _ =>
      have counts := plain.attempts_path lap ruling takes
      exact counts

/-- What a guard means: the runs of its region, and the last of them. -/
structure Means (run : GuardedRun World Work) (number : Nat) (fate : Fate)
    (later : Course World Work) (result : Fate) (final : Course World Work) : Prop where
  /-- The region runs once more than it is redelivered. -/
  runs : ∀ other, (∃ fate later, run.Lap .own other fate later) ↔ other ≤ number
  last : run.Lap .own number fate later
  /-- A run is followed by another one exactly when its failure calls for it. -/
  followed : ∀ {other after before}, run.Lap .own other (.finished after) before →
    ((∃ failure, Retries run.handler other after failure) ↔ other < number)
  /-- Each run comes with the redeliveries that were made, and so does the result. -/
  attempts : ∀ {other after before}, run.Lap .own other (.finished after) before →
    after.redelivery.attempts.toNat = run.entered.redelivery.attempts.toNat + other
  concludes : run.Concludes .own number fate later result final
  attempts_result : ∀ after, result = .finished after →
    after.redelivery.attempts.toNat = run.entered.redelivery.attempts.toNat + number

/-- **What a guard means.** With a region and handled paths that leave the attempt count alone, a
handler that does not shut down, and no saturation, the region runs until a failure does not call
for another run, and the guard gives what that last run concludes with. -/
theorem guard_meaning (surroundings : Surroundings World Work) (region : Behaviour World Work)
    (handler : Handler (Behaviour World Work)) (pinned : Bool) (x : Exchange)
    (course : Course World Work)
    (plain : (enter surroundings region handler pinned x course).Plain) :
    ∃ number fate later result final,
      (enter surroundings region handler pinned x course).Means number fate later result final ∧
      ∀ bound, number < bound →
        Behaviour.guard surroundings bound region handler pinned x course =
          (outside x pinned result,
           (enter surroundings region handler pinned x course).leave final) := by
  obtain ⟨number, fate, later, result, final, lap, concludes⟩ :=
    (enter surroundings region handler pinned x course).exists_concludes
  refine ⟨number, fate, later, result, final, ?_, ?_⟩
  · exact {
      runs := concludes.exists_lap_iff lap
      last := lap
      followed := fun there => concludes.exists_retries_iff plain.undisturbed lap there
      attempts := plain.attempts
      concludes := concludes
      attempts_result := fun after same => by
        subst same
        exact plain.attempts_concludes lap concludes }
  · intro bound enough
    exact guard_eq surroundings bound region handler pinned x course
      (rounds_eq plain.faithful lap concludes enough)

/-- Surroundings in which leaves do nothing and no handler shuts down. -/
def idle : Surroundings Unit Unit where
  perform _ _ x world := (.ok x, world)
  enter _ world := world
  leave _ world := world
  signalled _ _ := false
  scale _ := default
  pause _ _ world := (false, world)
  clock _ := 0

/-- A guard that allows two redeliveries, around a region that always fails. -/
def failingTwice : GuardedRun Unit Unit :=
  enter idle (fun _ x course => (.finished (x.withFailure (.step "io" "down")), course))
    { id := 0, policy := { Policy.standard with maxRedeliveries := 2 }, rules := [] } false default
    (Course.start ())

theorem failingTwice_lap {number : Nat} {fate : Fate} {later : Course Unit Unit}
    (lap : failingTwice.Lap .own number fate later) :
    number ≤ 2 ∧ ∃ x : Exchange, x.redelivery.rollbackOnly = false ∧
      fate = .finished (x.withFailure (.step "io" "down")) := by
  induction lap with
  | first gives => exact ⟨by omega, default, rfl, (congrArg Prod.fst gives).symm⟩
  | @next number after failure fate later resumed final before retries waits gives ih =>
      have within : number < 2 := retries.within
      refine ⟨within, again after failure, retries.unmarked, ?_⟩
      exact (congrArg Prod.fst gives).symm

theorem failingTwice_plain : failingTwice.Plain where
  region := by
    intro pinned x course after later gives
    obtain ⟨same, _⟩ := Prod.mk.inj gives
    rw [← Fate.finished.inj same]
    rfl
  paths := by
    intro rule member
    simp [failingTwice, enter] at member
  undisturbed := by
    intro number after later failure lap retries
    exact delay_undisturbed (fun _ _ => rfl) (fun _ _ _ => rfl)
  unsaturated := by
    intro number fate later lap
    have few := (failingTwice_lap lap).1
    change 0 + number < 4294967296
    omega

/-- The region that always fails runs three times. -/
theorem guard_meaning_failingTwice :
    failingTwice.Plain ∧
      ∃ fate later result final, failingTwice.Means 2 fate later result final := by
  refine ⟨failingTwice_plain, ?_⟩
  obtain ⟨number, fate, later, result, final, means, _⟩ :=
    guard_meaning _ _ _ _ _ _ failingTwice_plain
  obtain ⟨few, x, unmarked, rfl⟩ := failingTwice_lap means.last
  have enough : ¬ number < 2 := by
    intro within
    have retries : Retries failingTwice.handler number (x.withFailure (.step "io" "down"))
        (.step "io" "down") := ⟨rfl, unmarked, rfl, rfl, rfl, within⟩
    exact Nat.lt_irrefl _ ((means.followed means.last).mp ⟨_, retries⟩)
  obtain rfl : number = 2 := by omega
  exact ⟨_, later, result, final, means⟩

end GuardedRun

end Mediation
