import Mediation.Proofs.Delivery.Keeping
import Mediation.Proofs.Guard.Meaning

/-!
# Guards inside guards

All guards of a delivery count their redeliveries on the exchange, and each goes by what was counted
since it was entered. So a guard pays for the redeliveries of the guards inside its region and its
handled paths: its region runs once more than its policy allows redeliveries exactly when the runs
before the last leave the count as they found it, and the number it gives up with is that of its own
redeliveries exactly when nothing else was counted (`guard_counts`).
-/

set_option autoImplicit false

namespace Mediation

namespace GuardedRun

variable {World Work : Type} {run : GuardedRun World Work} {number other : Nat}
  {fate result : Fate} {later final before : Course World Work} {after : Exchange}
  {failure : Failure}

/-! ## Runs by the count of the exchange -/

/-- The region runs once more than this number. -/
def Redelivers (run : GuardedRun World Work) (number : Nat) : Prop :=
  ∀ other, (∃ fate later, run.Lap run.counted other fate later) ↔ other ≤ number

/-- Every run of the region leaves a failure that is no rollback. -/
def AlwaysFails (run : GuardedRun World Work) : Prop :=
  ∀ {number fate later}, run.Lap run.counted number fate later →
    ∃ after failure, fate = .finished after ∧ after.failure = some failure ∧
      after.isRollbackOnly = false ∧ failure.isRollback = false

/-- Without rules, a failure that is no rollback calls for another run as long as the policy allows
one more. -/
theorem retries_of_no_rules {Path : Type} {handler : Handler Path} (none_given : handler.rules = [])
    {count : Nat} {x : Exchange} (failed : x.failure = some failure)
    (unmarked : x.isRollbackOnly = false) (ordinary : failure.isRollback = false) :
    Retries handler count x failure ↔ count < handler.policy.maxRedeliveries.toNat := by
  have unruled : handler.classify failure = none := by simp [Handler.classify, none_given]
  constructor
  · intro retries
    have within := retries.within
    rw [unruled] at within
    exact within
  · intro within
    refine ⟨failed, unmarked, ordinary, ?_, ?_, ?_⟩
    · rw [unruled]
      rfl
    · rw [unruled]
      rfl
    · rw [unruled]
      exact within

/-- Without rules, a run of an always failing region is followed by another one exactly when the
count leaves room for it. -/
theorem AlwaysFails.exists_next_iff (fails : run.AlwaysFails)
    (undisturbed : run.Undisturbed run.counted) (none_given : run.handler.rules = [])
    (lap : run.Lap run.counted number (.finished after) later) :
    (∃ fate final, run.Lap run.counted (number + 1) fate final) ↔
      run.counted number after < run.handler.policy.maxRedeliveries.toNat := by
  obtain ⟨same, failure, given, failed, unmarked, ordinary⟩ := fails lap
  obtain rfl := Fate.finished.inj given
  constructor
  · rintro ⟨fate, final, next⟩
    obtain ⟨previous, cause, between, there, retries⟩ := next.previous
    obtain ⟨again, _⟩ := there.unique lap
    obtain rfl := Fate.finished.inj again
    have one := retries.failed.symm.trans failed
    rw [Option.some_inj] at one
    rw [one] at retries
    exact (retries_of_no_rules none_given failed unmarked ordinary).mp retries
  · intro within
    have retries := (retries_of_no_rules none_given failed unmarked ordinary).mpr within
    exact lap.exists_next retries (undisturbed lap retries)

/-- As long as the count leaves room, such a region runs again. -/
theorem AlwaysFails.exists_lap (fails : run.AlwaysFails) (undisturbed : run.Undisturbed run.counted)
    (none_given : run.handler.rules = []) {limit : Nat}
    (room : ∀ number < limit, ∀ after later, run.Lap run.counted number (.finished after) later →
      run.counted number after < run.handler.policy.maxRedeliveries.toNat)
    (within : number ≤ limit) :
    ∃ fate later, run.Lap run.counted number fate later := by
  induction number with
  | zero =>
      cases gives : run.region run.pinned run.entered run.course with
      | mk fate later => exact ⟨fate, later, .first gives⟩
  | succ number ih =>
      obtain ⟨fate, later, lap⟩ := ih (Nat.le_of_succ_le within)
      obtain ⟨after, _, rfl, _⟩ := fails lap
      exact (fails.exists_next_iff undisturbed none_given lap).mpr
        (room number within after later lap)

/-- **Without rules, an always failing region runs once more than the policy allows redeliveries
exactly when the count leaves room that often and no more often.** -/
theorem AlwaysFails.redelivers_iff (fails : run.AlwaysFails)
    (undisturbed : run.Undisturbed run.counted) (none_given : run.handler.rules = []) :
    run.Redelivers run.handler.policy.maxRedeliveries.toNat ↔
      (∀ number < run.handler.policy.maxRedeliveries.toNat, ∀ after later,
        run.Lap run.counted number (.finished after) later →
          run.counted number after < run.handler.policy.maxRedeliveries.toNat) ∧
      ∀ after later,
        run.Lap run.counted run.handler.policy.maxRedeliveries.toNat (.finished after) later →
          run.handler.policy.maxRedeliveries.toNat ≤
            run.counted run.handler.policy.maxRedeliveries.toNat after := by
  constructor
  · intro redelivers
    refine ⟨?_, ?_⟩
    · intro number less after later lap
      exact (fails.exists_next_iff undisturbed none_given lap).mp
        ((redelivers (number + 1)).mpr less)
    · intro after later lap
      refine Nat.le_of_not_lt fun within => ?_
      have next := (fails.exists_next_iff undisturbed none_given lap).mpr within
      exact Nat.not_succ_le_self _ ((redelivers _).mp next)
  · rintro ⟨room, spent⟩ other
    constructor
    · rintro ⟨fate, later, lap⟩
      refine Nat.le_of_not_lt fun beyond => ?_
      obtain ⟨_, final, next⟩ := lap.exists_of_le beyond
      obtain ⟨_, before, last⟩ := next.exists_of_le (Nat.le_succ _)
      obtain ⟨after, _, rfl, _⟩ := fails last
      have within := (fails.exists_next_iff undisturbed none_given last).mp ⟨_, final, next⟩
      exact absurd within (Nat.not_lt_of_le (spent after before last))
    · exact fails.exists_lap undisturbed none_given room

/-! ## Counts that never fall -/

/-- The exchange has counted no fewer attempts. -/
def CountKept (x after : Exchange) : Prop :=
  x.redelivery.attempts.toNat ≤ after.redelivery.attempts.toNat

theorem le_next (attempts : Attempts) : attempts.toNat ≤ attempts.next.toNat := by
  by_cases small : attempts.toNat + 1 < UInt32.size
  · rw [Attempts.toNat_next small]
    omega
  · have largest : attempts = 4294967295 := by
      have bounded := UInt32.toNat_lt_size attempts
      refine UInt32.toNat_inj.mp ?_
      change attempts.toNat = UInt32.size - 1
      omega
    rw [largest]
    decide

theorem ledgered_countKept : Ledgered CountKept where
  refl x := Nat.le_refl x.redelivery.attempts.toNat
  trans first second := Nat.le_trans first second
  withFailure x _ := Nat.le_refl x.redelivery.attempts.toNat
  withoutFailure x := Nat.le_refl x.redelivery.attempts.toNat
  markRollback x := Nat.le_refl x.redelivery.attempts.toNat
  markHandled x := Nat.le_refl x.redelivery.attempts.toNat
  markContinued x := Nat.le_refl x.redelivery.attempts.toNat
  recordAttempt x _ := le_next x.redelivery.attempts
  recordFailure x _ := Nat.le_refl x.redelivery.attempts.toNat

/-- The count never stands at the largest one with a redelivery to come. -/
def Unsaturated (run : GuardedRun World Work) : Prop :=
  ∀ {number after later failure}, run.Lap run.counted number (.finished after) later →
    Retries run.handler (run.counted number after) after failure →
      after.redelivery.attempts.toNat + 1 < UInt32.size

/-- From one run to the next of a region that lowers no count, the count grows by one at least. -/
theorem Lap.attempts_lt (keeps : run.region.Keeps CountKept) (unsaturated : run.Unsaturated)
    {first second : Exchange} (lap : run.Lap run.counted number (.finished first) before)
    (next : run.Lap run.counted (number + 1) (.finished second) later) :
    first.redelivery.attempts.toNat < second.redelivery.attempts.toNat := by
  cases next with
  | next previous retries waits gives =>
      obtain ⟨same, rfl⟩ := previous.unique lap
      obtain rfl := Fate.finished.inj same
      have kept := keeps gives
      change (Attempts.next _).toNat ≤ _ at kept
      rw [Attempts.toNat_next (unsaturated lap retries)] at kept
      exact kept

/-- Every run of such a region leaves at least its number of attempts counted. -/
theorem Lap.entered_le (keeps : run.region.Keeps CountKept) (unsaturated : run.Unsaturated)
    (lap : run.Lap run.counted number (.finished after) later) :
    run.entered.redelivery.attempts.toNat + number ≤ after.redelivery.attempts.toNat := by
  induction number generalizing after later with
  | zero =>
      cases lap with
      | first gives => exact keeps gives
  | succ number ih =>
      obtain ⟨middle, _, between, previous, _⟩ := lap.previous
      have grown := ih previous
      have less := previous.attempts_lt keeps unsaturated lap
      omega

/-- The count never falls. -/
structure Rising (run : GuardedRun World Work) : Prop where
  region : run.region.Keeps CountKept
  paths : Behaviour.PathsKeep CountKept run.handler
  unsaturated : run.Unsaturated

/-- The count grows by one at least with every run. -/
theorem Rising.le_attempts (rising : run.Rising) {first second : Exchange}
    (lap : run.Lap run.counted number (.finished first) before)
    (last : run.Lap run.counted (number + other) (.finished second) later) :
    first.redelivery.attempts.toNat + other ≤ second.redelivery.attempts.toNat := by
  induction other generalizing second later with
  | zero =>
      obtain ⟨same, _⟩ := lap.unique last
      rw [Fate.finished.inj same]
      exact Nat.le_refl _
  | succ other ih =>
      obtain ⟨middle, _, between, previous, _⟩ := last.previous
      have grown := ih previous
      have less := previous.attempts_lt rising.region rising.unsaturated last
      omega

/-- **Where the count never falls, the region runs once more than the policy allows redeliveries
exactly when each run before the last leaves the count as it found it.** -/
theorem AlwaysFails.redelivers_iff_of_rising (fails : run.AlwaysFails)
    (undisturbed : run.Undisturbed run.counted) (none_given : run.handler.rules = [])
    (rising : run.Rising) :
    run.Redelivers run.handler.policy.maxRedeliveries.toNat ↔
      ∀ number < run.handler.policy.maxRedeliveries.toNat, ∀ after later,
        run.Lap run.counted number (.finished after) later →
          after.redelivery.attempts.toNat = run.entered.redelivery.attempts.toNat + number := by
  have general := fails.redelivers_iff undisturbed none_given
  generalize run.handler.policy.maxRedeliveries.toNat = limit at general ⊢
  constructor
  · intro redelivers number less after later lap
    obtain ⟨room, _⟩ := general.mp redelivers
    obtain ⟨fate, before, last⟩ := (redelivers (number + (limit - 1 - number))).mpr (by omega)
    obtain ⟨end_of_room, _, rfl, _⟩ := fails last
    have from_entry := lap.entered_le rising.region rising.unsaturated
    have grown := rising.le_attempts lap last
    have within := room _ (by omega) end_of_room before last
    simp only [counted] at within
    omega
  · intro steady
    refine general.mpr ⟨?_, ?_⟩
    · intro number less after later lap
      have counts := steady number less after later lap
      simp only [counted]
      omega
    · intro after later lap
      have from_entry := lap.entered_le rising.region rising.unsaturated
      simp only [counted]
      omega

/-! ## The number a guard gives up with -/

/-- After its last run, of this number, the guard leaves with an exhausted failure of its own
making, put into an exchange: for its region or for a handled path. -/
inductive GivesUp (run : GuardedRun World Work) (number : Nat) : Exchange → Attempts → Prop
  | region {after : Exchange} {later : Course World Work} {failure : Failure} :
      run.Lap run.counted number (.finished after) later →
      Settles run.handler (run.counted number after) after failure →
      run.handler.ruling failure = .propagate →
        GivesUp run number (after.recordFailure failure) (UInt32.ofNat (run.counted number after))
  | path {after outcome : Exchange} {later final : Course World Work} {failure cause : Failure}
      {path : Behaviour World Work} :
      run.Lap run.counted number (.finished after) later →
      Settles run.handler (run.counted number after) after failure →
      run.handler.ruling failure = .handled path →
      path run.pinned (after.recordFailure failure).markHandled.withoutFailure
        (run.note later .handled) = (.finished outcome, final) →
      outcome.failure = some cause → cause.isExhausted = false → cause.isRollback = false →
        GivesUp run number outcome (UInt32.ofNat (run.counted number outcome))

variable {moment : Exchange} {attempts : Attempts}

/-- That failure is what the guard leaves with. -/
theorem GivesUp.concludes (gives : run.GivesUp number moment attempts) :
    ∃ fate later cause final, run.Lap run.counted number fate later ∧
      run.Concludes run.counted number fate later
        (.finished (moment.withFailure (.exhausted attempts cause))) final := by
  cases gives with
  | region lap settles ruling => exact ⟨_, _, _, _, lap, .exhausted settles ruling⟩
  | path lap settles ruling takes failed gaveUp ordinary =>
      exact ⟨_, _, _, _, lap, .pathFailed settles ruling takes failed gaveUp ordinary⟩

/-- **The number a guard gives up with** is what was counted since it was entered. -/
theorem GivesUp.toNat_attempts (gives : run.GivesUp number moment attempts) :
    attempts.toNat =
      moment.redelivery.attempts.toNat - run.entered.redelivery.attempts.toNat := by
  have fits : ∀ x : Exchange, (UInt32.ofNat (run.counted number x)).toNat =
      x.redelivery.attempts.toNat - run.entered.redelivery.attempts.toNat := by
    intro x
    rw [← run.since_entered number, run.toNat_since_entered number]
    rfl
  cases gives with
  | region lap settles ruling => exact fits _
  | path lap settles ruling takes failed gaveUp ordinary => exact fits _

theorem GivesUp.entered_le (gives : run.GivesUp number moment attempts) (rising : run.Rising) :
    run.entered.redelivery.attempts.toNat + number ≤ moment.redelivery.attempts.toNat := by
  cases gives with
  | region lap settles ruling =>
      have from_entry := lap.entered_le rising.region rising.unsaturated
      exact from_entry
  | path lap settles ruling takes failed gaveUp ordinary =>
      have from_entry := lap.entered_le rising.region rising.unsaturated
      obtain ⟨rule, listed, disposition⟩ := Handler.mem_rules_of_ruling ruling
      have kept := rising.paths rule listed _ disposition takes
      exact Nat.le_trans from_entry kept

/-! ## Guards in trees -/

/-- The run of a guard that stands in a tree of steps. -/
def ofTree (surroundings : Surroundings World Work) (bound : Nat) (region : Step Work)
    (handler : Handler (Step Work)) (pinned : Bool) (x : Exchange) (course : Course World Work) :
    GuardedRun World Work :=
  enter surroundings (region.run surroundings bound)
    (Step.foldHandler (behaviours surroundings bound) handler) pinned x course

section Trees

variable {surroundings : Surroundings World Work} {bound : Nat} {region : Step Work}
  {handler : Handler (Step Work)} {pinned : Bool} {x : Exchange} {course : Course World Work}

theorem policy_ofTree :
    (ofTree surroundings bound region handler pinned x course).handler.policy = handler.policy := by
  rw [ofTree, enter, Step.foldHandler_eq]

theorem rules_ofTree (none_given : handler.rules = []) :
    (ofTree surroundings bound region handler pinned x course).handler.rules = [] := by
  rw [ofTree, enter, Step.foldHandler_eq, none_given]
  rfl

/-- Where no leaf lowers the count, no guard in a tree does. -/
theorem rising_ofTree (leaves : ∀ work, (Behaviour.leaf surroundings work).Keeps CountKept)
    (fits : (ofTree surroundings bound region handler pinned x course).Unsaturated) :
    (ofTree surroundings bound region handler pinned x course).Rising where
  region := Step.run_keeps ledgered_countKept bound leaves region
  paths := Step.foldHandler_keeps ledgered_countKept bound leaves handler
  unsaturated := fits

/-- A guard in a tree does as its laps say. -/
theorem run_ofTree
    (lap : (ofTree surroundings bound region handler pinned x course).Lap
      (ofTree surroundings bound region handler pinned x course).counted number fate later)
    (concludes : (ofTree surroundings bound region handler pinned x course).Concludes
      (ofTree surroundings bound region handler pinned x course).counted number fate later result
      final) (enough : number < bound) :
    (Step.guard region handler).run surroundings bound pinned x course =
      (outside x pinned result,
       (ofTree surroundings bound region handler pinned x course).leave final) :=
  guard_eq surroundings bound (region.run surroundings bound)
    (Step.foldHandler (behaviours surroundings bound) handler) pinned x course
    (rounds_eq (faithful_counted _) lap concludes enough)

end Trees

/-- A guard in a tree of steps goes by the count that all guards of a delivery share. -/
structure SharesCount (surroundings : Surroundings World Work) (bound : Nat) (region : Step Work)
    (handler : Handler (Step Work)) (pinned : Bool) (x : Exchange) (course : Course World Work)
    (run : GuardedRun World Work) : Prop where
  /-- It does as its laps say. -/
  follows : ∀ {number fate later result final}, run.Lap run.counted number fate later →
    run.Concludes run.counted number fate later result final → number < bound →
      (Step.guard region handler).run surroundings bound pinned x course =
        (outside x pinned result, run.leave final)
  /-- Without rules, an always failing region runs once more than the policy allows redeliveries
  exactly when what is counted leaves room for every one of them and for no more. -/
  runs : handler.rules = [] → run.AlwaysFails →
    (run.Redelivers handler.policy.maxRedeliveries.toNat ↔
      (∀ number < handler.policy.maxRedeliveries.toNat, ∀ after later,
        run.Lap run.counted number (.finished after) later →
          after.redelivery.attempts.toNat - x.redelivery.attempts.toNat <
            handler.policy.maxRedeliveries.toNat) ∧
      ∀ after later,
        run.Lap run.counted handler.policy.maxRedeliveries.toNat (.finished after) later →
          handler.policy.maxRedeliveries.toNat ≤
            after.redelivery.attempts.toNat - x.redelivery.attempts.toNat)
  /-- What it gives up with is what it gives. -/
  gives_up : ∀ {number moment attempts}, run.GivesUp number moment attempts →
    ∃ cause final, number < bound →
      (Step.guard region handler).run surroundings bound pinned x course =
        (outside x pinned (.finished (moment.withFailure (.exhausted attempts cause))),
         run.leave final)
  /-- The number in a failure that it creates is what was counted since it was entered. -/
  tells : ∀ {number moment attempts}, run.GivesUp number moment attempts →
    attempts.toNat = moment.redelivery.attempts.toNat - x.redelivery.attempts.toNat
  /-- Where no leaf lowers the count, such a region does so exactly when each of its runs before the
  last leaves the count as it found it. -/
  runs_rising : (∀ work, (Behaviour.leaf surroundings work).Keeps CountKept) → run.Unsaturated →
    handler.rules = [] → run.AlwaysFails →
    (run.Redelivers handler.policy.maxRedeliveries.toNat ↔
      ∀ number < handler.policy.maxRedeliveries.toNat, ∀ after later,
        run.Lap run.counted number (.finished after) later →
          after.redelivery.attempts.toNat = x.redelivery.attempts.toNat + number)
  /-- And the number is that of its own redeliveries exactly when nothing else was counted. -/
  tells_rising : (∀ work, (Behaviour.leaf surroundings work).Keeps CountKept) → run.Unsaturated →
    ∀ {number moment attempts}, run.GivesUp number moment attempts →
      (attempts.toNat = number ↔
        moment.redelivery.attempts.toNat = x.redelivery.attempts.toNat + number)

/-- **Guards share one count.** Whatever a guard contains and is contained in, its budget is used
up, and the number it gives up with grows, by the redeliveries of the guards inside it as by its
own. -/
theorem guard_counts (surroundings : Surroundings World Work) (bound : Nat) (region : Step Work)
    (handler : Handler (Step Work)) (pinned : Bool) (x : Exchange) (course : Course World Work)
    (undisturbed : (ofTree surroundings bound region handler pinned x course).Undisturbed
      (ofTree surroundings bound region handler pinned x course).counted) :
    SharesCount surroundings bound region handler pinned x course
      (ofTree surroundings bound region handler pinned x course) := by
  refine ⟨run_ofTree, ?_, ?_, ?_, ?_, ?_⟩
  · intro none_given fails
    have general := fails.redelivers_iff undisturbed (rules_ofTree none_given)
    rw [policy_ofTree] at general
    exact general
  · intro number moment attempts gives
    obtain ⟨fate, later, cause, final, lap, concludes⟩ := gives.concludes
    exact ⟨cause, final, run_ofTree lap concludes⟩
  · intro number moment attempts gives
    exact gives.toNat_attempts
  · intro leaves fits none_given fails
    have general := fails.redelivers_iff_of_rising undisturbed (rules_ofTree none_given)
      (rising_ofTree leaves fits)
    rw [policy_ofTree] at general
    exact general
  · intro leaves fits number moment attempts gives
    have told := gives.toNat_attempts
    have grown := gives.entered_le (rising_ofTree leaves fits)
    change _ = _ - x.redelivery.attempts.toNat at told
    change x.redelivery.attempts.toNat + _ ≤ _ at grown
    omega

/-- Surroundings in which every leaf fails and no handler shuts down. -/
def failingLeaves : Surroundings Unit Unit where
  perform _ _ x world := (.ok (x.withFailure (.step "io" "down")), world)
  enter _ world := world
  leave _ world := world
  signalled _ _ := false
  scale _ := default
  pause _ _ world := (false, world)
  clock _ := 0

/-- A handler that allows one redelivery. -/
def retryOnce : Handler (Step Unit) :=
  { id := 0, policy := { Policy.standard with maxRedeliveries := 1 }, rules := [] }

/-- A guard around a guard around a leaf, both of which allow one redelivery. -/
def nested : GuardedRun Unit Unit :=
  ofTree failingLeaves 3 (.guard (.leaf "f" false ()) retryOnce) retryOnce false default
    (Course.start ())

/-- What the inner guard gives back. -/
def gaveUpOnce : Exchange :=
  { (default : Exchange) with
    failure := some (.exhausted 1 (.step "io" "down"))
    redelivery := { Redelivery.fresh with attempts := 1, lastFailure := some (.step "io" "down") } }

theorem nested_region :
    nested.region nested.pinned nested.entered nested.course =
      (.finished gaveUpOnce, (nested.region nested.pinned nested.entered nested.course).2) :=
  Prod.ext rfl rfl

theorem nested_lap {number : Nat} {fate : Fate} {later : Course Unit Unit}
    (lap : nested.Lap nested.counted number fate later) :
    number = 0 ∧ fate = .finished gaveUpOnce := by
  induction lap with
  | first gives =>
      rw [nested_region] at gives
      exact ⟨rfl, (Prod.mk.inj gives).1.symm⟩
  | next before retries waits gives ih =>
      obtain ⟨rfl, same⟩ := ih
      obtain rfl := Fate.finished.inj same
      have within : 1 < 1 := retries.within
      exact absurd within (Nat.lt_irrefl 1)

/-- The inner redelivery uses up the budget of the outer guard: its region runs only once, and yet
it gives up after one attempt. -/
theorem guard_counts_nested :
    nested.Undisturbed nested.counted ∧ ¬ nested.Redelivers 1 ∧
      nested.GivesUp 0 (gaveUpOnce.recordFailure (.exhausted 1 (.step "io" "down"))) 1 := by
  have undisturbed : nested.Undisturbed nested.counted := by
    intro number after later failure lap retries
    exact delay_undisturbed (fun _ _ => rfl) (fun _ _ _ => rfl)
  have fails : nested.AlwaysFails := by
    intro number fate later lap
    exact ⟨gaveUpOnce, _, (nested_lap lap).2, rfl, rfl, rfl⟩
  have counts := guard_counts failingLeaves 3 (.guard (.leaf "f" false ()) retryOnce) retryOnce
    false default (Course.start ()) undisturbed
  have lap : nested.Lap nested.counted 0 (.finished gaveUpOnce) _ := .first nested_region
  refine ⟨undisturbed, ?_, ?_⟩
  · intro redelivers
    have room := ((counts.runs rfl fails).mp redelivers).1 0 (by decide) gaveUpOnce _ lap
    exact absurd room (by decide)
  · have spent : ¬ (Handler.redeliverable (nested.handler.classify
        (.exhausted 1 (.step "io" "down"))) = true ∧ 1 < 1) := fun both => Nat.lt_irrefl 1 both.2
    exact .region lap ⟨rfl, rfl, rfl, rfl, spent⟩ rfl

end GuardedRun

end Mediation
