import Mediation.Proofs.Delivery.Containment
import Mediation.Proofs.Guard.Rounds

/-!
# Rollbacks win

A leaf asks for a rollback by mark or by failure, a guard when the first rule that applies says so
(`Note.asksRollback`). From then on a run only closes: guards are left, and nothing is run, taken,
passed over or counted any more (`Note.closes`). The exchange ends as one that is rolled back, with
the attempt count of that moment, which the journal tells (`attemptsTold`).

The mark and the failure are two signals, and four places have to respect them: pipelines, the
decision of a guard, what it does after a handled path, and the outcome. A run that does so honours
rollbacks (`Honoured`); every step does (`Step.run_honours`), and so does a delivery
(`Delivery.rollback_wins`).
-/

set_option autoImplicit false

namespace Mediation

/-! ## Exchanges that are rolled back -/

namespace Exchange

variable {x : Exchange} {failure : Failure}

theorem outcome_eq_rolledBack :
    x.outcome = .rolledBack ↔ x.isRollbackOnly = true ∨ x.failedByRollback = true := by
  unfold outcome
  split
  · next asked => simpa using asked
  · next unasked =>
      split
      · simpa using unasked
      · simpa using unasked

theorem rolledBack_of_marked (marked : x.isRollbackOnly = true) : x.outcome = .rolledBack :=
  outcome_eq_rolledBack.mpr (.inl marked)

/-- A failure that is no rollback does not roll an unmarked exchange back. -/
theorem outcome_ne_rolledBack (failed : x.failure = some failure)
    (unmarked : x.isRollbackOnly = false) (ordinary : failure.isRollback = false) :
    x.outcome ≠ .rolledBack := by
  rw [Ne, outcome_eq_rolledBack]
  simp [unmarked, failedByRollback, failed, ordinary]

/-- An exchange that is rolled back goes no further in a pipeline. -/
theorem not_goesOn (rolledBack : x.outcome = .rolledBack) : Behaviour.goesOn x = false := by
  rcases outcome_eq_rolledBack.mp rolledBack with marked | failedSo
  · simp [Behaviour.goesOn, marked]
  · have failed : x.isFailed = true := by
      unfold failedByRollback at failedSo
      unfold isFailed
      cases slot : x.failure with
      | none => simp [slot] at failedSo
      | some failure => rfl
    simp [Behaviour.goesOn, failed]

end Exchange

/-! ## What a journal tells of rollbacks -/

namespace Note

variable {Work : Type}

/-- A rollback is asked for: a leaf leaves the exchange marked or with a failure that says so, or a
guard goes by a rule that says so. -/
def asksRollback : Note Work → Bool
  | performed _ _ _ (.ok after) => after.outcome = .rolledBack
  | guarded _ .rolledBack => true
  | _ => false

/-- A run closes: a guard is left, on its own or with the failure of its handled path wrapped, or
finds that there is a rollback; or the delivery has ended. -/
def closes : Note Work → Bool
  | left _ => true
  | delivered _ _ => true
  | guarded _ .rolledBack => true
  | guarded _ (.pathFailed _) => true
  | _ => false

end Note

section Notes

variable {Work : Type} {note : Note Work} {notes later earlier : List (Note Work)}
  {start : Attempts} {fate : Fate} {x y : Exchange}

/-- The attempt count as a journal tells it: a leaf may leave any, and a redelivery counts one
more. -/
def attemptsTold (start : Attempts) : List (Note Work) → Attempts
  | [] => start
  | .performed _ _ _ (.ok after) :: _ => after.redelivery.attempts
  | .guarded _ (.redelivery _ _ _) :: earlier => (attemptsTold start earlier).next
  | _ :: earlier => attemptsTold start earlier

theorem attemptsTold_append :
    attemptsTold start (later ++ earlier) = attemptsTold (attemptsTold start earlier) later := by
  induction later with
  | nil => rfl
  | cons note rest ih =>
      rw [List.cons_append]
      unfold attemptsTold
      split <;> simp_all

/-- Closing notes count nothing. -/
theorem attemptsTold_closing (closing : ∀ note ∈ later, note.closes = true) :
    attemptsTold start (later ++ earlier) = attemptsTold start earlier := by
  induction later with
  | nil => rfl
  | cons note rest ih =>
      have here := closing note List.mem_cons_self
      have others := ih fun other member => closing other (List.mem_cons_of_mem _ member)
      rw [← others, List.cons_append]
      cases note with
      | performed work pinned before after => simp [Note.closes] at here
      | entered handler x => rfl
      | left handler => rfl
      | delivered outcome time => rfl
      | guarded handler event =>
          cases event with
          | redelivery failure attempt delay => simp [Note.closes] at here
          | _ => rfl

/-- What the notes of a run, the latest first, tell of rollbacks. -/
structure Honoured (start : Attempts) (fate : Fate) (notes : List (Note Work)) : Prop where
  /-- Once a rollback is asked for, the exchange is rolled back. -/
  wins : (∃ note ∈ notes, note.asksRollback = true) →
    ∃ x, fate = .finished x ∧ x.outcome = .rolledBack
  /-- Whatever comes after it closes. -/
  closes : notes.Pairwise fun after before => before.asksRollback = true → after.closes = true
  panicked : ∀ panic, fate = .panicked panic → Panicked notes panic
  /-- Without a panic the exchange has the attempt count that the notes tell. -/
  counts : (∀ note ∈ notes, note.panic? = none) → ∀ x, fate = .finished x →
    x.redelivery.attempts = attemptsTold start notes

/-- An exchange that is not rolled back comes from a run in which nothing asked for it. -/
theorem Honoured.unasked (honoured : Honoured start (.finished x) notes)
    (stays : x.outcome ≠ .rolledBack) : ∀ note ∈ notes, note.asksRollback = false := by
  intro note member
  refine Bool.eq_false_iff.mpr fun asks => ?_
  obtain ⟨y, same, rolledBack⟩ := honoured.wins ⟨note, member, asks⟩
  rw [Fate.finished.inj same] at stays
  exact stays rolledBack

theorem honoured_nil (same : x.redelivery.attempts = start) :
    Honoured start (.finished x) ([] : List (Note Work)) where
  wins := by simp
  closes := .nil
  panicked _ stopped := Fate.noConfusion stopped
  counts _ y finished := by
    rw [← Fate.finished.inj finished]
    exact same

/-- A single note of which a run consists. -/
theorem honoured_single (quiet : note.asksRollback = false)
    (counts : x.redelivery.attempts = attemptsTold start [note]) :
    Honoured start (.finished x) [note] where
  wins := by simp [quiet]
  closes := List.pairwise_singleton _ _
  panicked _ stopped := Fate.noConfusion stopped
  counts _ y finished := by
    rw [← Fate.finished.inj finished]
    exact counts

/-- A run goes on where an earlier one has finished without a rollback being asked for. -/
theorem Honoured.append (first : Honoured start (.finished x) earlier)
    (unasked : ∀ note ∈ earlier, note.asksRollback = false)
    (second : Honoured x.redelivery.attempts fate later) :
    Honoured start fate (later ++ earlier) where
  wins := by
    rintro ⟨note, member, asks⟩
    rcases List.mem_append.mp member with inLater | inEarlier
    · exact second.wins ⟨note, inLater, asks⟩
    · rw [unasked note inEarlier] at asks
      exact absurd asks Bool.false_ne_true
  closes := by
    refine List.pairwise_append.mpr ⟨second.closes, first.closes, ?_⟩
    intro after _ before inEarlier asks
    rw [unasked before inEarlier] at asks
    exact absurd asks Bool.false_ne_true
  panicked panic stopped := panicked_append.mpr (.inl (second.panicked panic stopped))
  counts calm y finished := by
    have before := first.counts (fun note member => calm note (List.mem_append_right _ member)) x rfl
    rw [attemptsTold_append, ← before]
    exact second.counts (fun note member => calm note (List.mem_append_left _ member)) y finished

/-- A closing note. -/
theorem Honoured.close (honoured : Honoured start fate notes) (note : Note Work)
    (closing : note.closes = true)
    (asked : note.asksRollback = true → ∃ x, fate = .finished x ∧ x.outcome = .rolledBack) :
    Honoured start fate (note :: notes) where
  wins := by
    rintro ⟨other, member, asks⟩
    rcases List.mem_cons.mp member with rfl | inNotes
    · exact asked asks
    · exact honoured.wins ⟨other, inNotes, asks⟩
  closes := List.pairwise_cons.mpr ⟨fun _ _ _ => closing, honoured.closes⟩
  panicked panic stopped := panicked_cons.mpr (.inr (honoured.panicked panic stopped))
  counts calm x finished := by
    have told : attemptsTold start ([note] ++ notes) = attemptsTold start notes :=
      attemptsTold_closing (by simpa using closing)
    rw [List.singleton_append] at told
    rw [told]
    exact honoured.counts (fun other member => calm other (List.mem_cons_of_mem _ member)) x
      finished

/-- The exchange may change as long as it stays rolled back if it is, and keeps its count. -/
theorem Honoured.hand (honoured : Honoured start (.finished x) notes)
    (stays : x.outcome = .rolledBack → y.outcome = .rolledBack)
    (same : y.redelivery.attempts = x.redelivery.attempts) :
    Honoured start (.finished y) notes where
  wins asked := by
    obtain ⟨z, finished, rolledBack⟩ := honoured.wins asked
    rw [← Fate.finished.inj finished] at rolledBack
    exact ⟨y, rfl, stays rolledBack⟩
  closes := honoured.closes
  panicked _ stopped := Fate.noConfusion stopped
  counts calm z finished := by
    rw [← Fate.finished.inj finished, same]
    exact honoured.counts calm x rfl

/-- A panic that is contained: nothing asked for a rollback before it. -/
theorem Honoured.contained {panic : Panic} (honoured : Honoured start (.panicked panic) notes) :
    Honoured start (.finished y) notes where
  wins asked := by
    obtain ⟨x, finished, _⟩ := honoured.wins asked
    exact Fate.noConfusion finished
  closes := honoured.closes
  panicked _ stopped := Fate.noConfusion stopped
  counts calm := by
    obtain ⟨note, member, panics⟩ := honoured.panicked panic rfl
    rw [calm note member] at panics
    simp at panics

/-- What becomes of a run from the moment of a note that asks for a rollback: what comes later
closes, and the exchange is rolled back, with the attempt count of that moment. -/
structure RolledBackFrom (start : Attempts) (fate : Fate) (later : List (Note Work))
    (note : Note Work) (earlier : List (Note Work)) : Prop where
  closes : ∀ other ∈ later, other.closes = true
  wins : ∃ x, fate = .finished x ∧ x.outcome = .rolledBack
  /-- Nothing is counted any more. -/
  counts : (∀ other ∈ note :: earlier, other.panic? = none) → ∀ x, fate = .finished x →
    x.redelivery.attempts = attemptsTold start (note :: earlier)

theorem Honoured.rolledBackFrom (honoured : Honoured start fate (later ++ note :: earlier))
    (asks : note.asksRollback = true) : RolledBackFrom start fate later note earlier := by
  have closing : ∀ other ∈ later, other.closes = true := by
    intro other member
    exact (List.pairwise_append.mp honoured.closes).2.2 other member note List.mem_cons_self asks
  refine ⟨closing, honoured.wins ⟨note, by simp, asks⟩, fun calm x finished => ?_⟩
  rw [← attemptsTold_closing closing]
  refine honoured.counts (fun other member => ?_) x finished
  rcases List.mem_append.mp member with inLater | before
  · have closed := closing other inLater
    cases other with
    | performed work pinned before after => simp [Note.closes] at closed
    | _ => rfl
  · exact calm other before

end Notes

/-! ## What a guard decides -/

section Decisions

variable {Path : Type}

/-- What becomes of an exchange that a region has handed back. -/
inductive Decides (handler : Handler Path) (x : Exchange) :
    Guard.Next Path × Option Guard.Event → Prop
  | rollBack {y : Exchange} : y.outcome = .rolledBack →
      y.redelivery.attempts = x.redelivery.attempts →
        Decides handler x (.leave y, some .rolledBack)
  | pass : x.outcome ≠ .rolledBack → Decides handler x (.leave x, none)
  | give {y : Exchange} {event : Guard.Event} : x.outcome ≠ .rolledBack →
      y.redelivery.attempts = x.redelivery.attempts →
      (event = .continued ∨ ∃ attempts, event = .exhausted attempts) →
        Decides handler x (.leave y, some event)
  | follow {y : Exchange} {path : Path} {rule : Rule Path} : x.outcome ≠ .rolledBack →
      y.outcome ≠ .rolledBack → y.redelivery.attempts = x.redelivery.attempts →
      rule ∈ handler.rules → rule.disposition = .handled path →
        Decides handler x (.follow y path, some .handled)
  | redeliver {y : Exchange} {spacing : Spacing} {failure : Failure} {attempt : Attempts} :
      x.outcome ≠ .rolledBack → y.outcome ≠ .rolledBack →
      y.redelivery.attempts = x.redelivery.attempts.next →
        Decides handler x (.redeliver y spacing, some (.redelivery failure attempt spacing))

variable {handler : Handler Path} {entry : Attempts} {x : Exchange} {failure : Failure}

theorem govern_decides (failed : x.failure = some failure) (unmarked : x.isRollbackOnly = false)
    (ordinary : failure.isRollback = false) :
    Decides handler x (Guard.govern handler entry x failure (handler.classify failure)) := by
  have stays := Exchange.outcome_ne_rolledBack failed unmarked ordinary
  simp only [Guard.govern]
  split
  · refine .redeliver stays ?_ rfl
    exact Exchange.outcome_ne_rolledBack (x := x.recordAttempt failure) failed unmarked ordinary
  · cases ruled : handler.classify failure with
    | none => exact .give stays rfl (.inr ⟨_, rfl⟩)
    | some rule =>
        have listed : rule ∈ handler.rules := List.mem_of_find?_eq_some ruled
        simp only [Option.map_some, Option.getD_some]
        cases handled : rule.disposition with
        | propagate => exact .give stays rfl (.inr ⟨_, rfl⟩)
        | rollback => exact .give stays rfl (.inr ⟨_, rfl⟩)
        | continued => exact .give stays rfl (.inl rfl)
        | handled path =>
            refine .follow stays ?_ rfl listed handled
            rw [Ne, Exchange.outcome_eq_rolledBack]
            rintro (marked | failedSo)
            · have still : x.isRollbackOnly = true := marked
              rw [unmarked] at still
              exact absurd still Bool.false_ne_true
            · exact absurd failedSo Bool.false_ne_true

theorem afterRegion_decides (handler : Handler Path) (entry : Attempts) (x : Exchange) :
    Decides handler x (Guard.afterRegion handler entry x) := by
  have marked : x.markRollback.outcome = .rolledBack := Exchange.rolledBack_of_marked rfl
  unfold Guard.afterRegion
  cases failed : x.failure with
  | none =>
      simp only
      split
      · next asked => exact .rollBack (Exchange.rolledBack_of_marked asked) rfl
      · next unasked =>
          refine .pass ?_
          rw [Ne, Exchange.outcome_eq_rolledBack]
          simpa [Exchange.failedByRollback, failed] using unasked
  | some failure =>
      simp only
      split
      · exact .rollBack marked rfl
      · next unasked =>
          split
          · exact .rollBack marked rfl
          · simp only [Bool.or_eq_true, not_or, Bool.not_eq_true] at unasked
            exact govern_decides failed unasked.1 unasked.2

/-- What a guard does after a handled path rolls nothing forward again. -/
theorem afterPath_honours (entry : Attempts) (x : Exchange) :
    (x.outcome = .rolledBack → (Guard.afterPath entry x).1.outcome = .rolledBack) ∧
      (Guard.afterPath entry x).1.redelivery.attempts = x.redelivery.attempts ∧
      ((Guard.afterPath entry x).2 = none ∨
        ∃ attempts, (Guard.afterPath entry x).2 = some (.pathFailed attempts)) := by
  unfold Guard.afterPath
  cases failed : x.failure with
  | none => exact ⟨id, rfl, .inl rfl⟩
  | some failure =>
      simp only
      split
      · exact ⟨id, rfl, .inl rfl⟩
      · next neither =>
          refine ⟨fun rolledBack => ?_, rfl, .inr ⟨_, rfl⟩⟩
          rcases Exchange.outcome_eq_rolledBack.mp rolledBack with marked | failedSo
          · exact Exchange.rolledBack_of_marked marked
          · simp [Exchange.failedByRollback, failed] at failedSo
            simp [failedSo] at neither

end Decisions

/-! ## Steps -/

namespace Behaviour

variable {World Work : Type} {surroundings : Surroundings World Work}

/-- A run adds notes to the journal, and they honour rollbacks. -/
def Answers (start : Attempts) (course : Course World Work)
    (outcome : Fate × Course World Work) : Prop :=
  ∃ notes, outcome.2.journal = notes ++ course.journal ∧ Honoured start outcome.1 notes

/-- Every run of a behaviour does. -/
def Honours (behaviour : Behaviour World Work) : Prop :=
  ∀ pinned x course, Answers x.redelivery.attempts course (behaviour pinned x course)

variable {start : Attempts} {course middle : Course World Work} {outcome : Fate × Course World Work}
  {x y : Exchange}

theorem answers_finished (journal : middle.journal = course.journal)
    (same : x.redelivery.attempts = start) : Answers start course (.finished x, middle) :=
  ⟨[], by simp [journal], honoured_nil same⟩

/-- A run goes on where an earlier one has finished without a rollback. -/
theorem Answers.trans (first : Answers start course (.finished x, middle))
    (stays : x.outcome ≠ .rolledBack)
    (second : Answers x.redelivery.attempts middle outcome) : Answers start course outcome := by
  obtain ⟨earlier, before, finished⟩ := first
  obtain ⟨later, behind, honoured⟩ := second
  refine ⟨later ++ earlier, by rw [behind, before, List.append_assoc], ?_⟩
  exact finished.append (finished.unasked stays) honoured

theorem Answers.hand (answers : Answers start course (.finished x, middle))
    (stays : x.outcome = .rolledBack → y.outcome = .rolledBack)
    (same : y.redelivery.attempts = x.redelivery.attempts) :
    Answers start course (.finished y, middle) := by
  obtain ⟨notes, noted, honoured⟩ := answers
  exact ⟨notes, noted, honoured.hand stays same⟩

theorem Answers.close (answers : Answers start course outcome) {note : Note Work}
    (closing : note.closes = true)
    (asked : note.asksRollback = true →
      ∃ x, outcome.1 = .finished x ∧ x.outcome = .rolledBack) :
    Answers start course (outcome.1, outcome.2.note note) := by
  obtain ⟨notes, noted, honoured⟩ := answers
  exact ⟨note :: notes, congrArg _ noted, honoured.close note closing asked⟩

theorem answers_note (x : Exchange) (note : Note Work) (quiet : note.asksRollback = false)
    (counts : x.redelivery.attempts = attemptsTold start [note]) :
    Answers start course (.finished x, course.note note) :=
  ⟨[note], rfl, honoured_single quiet counts⟩

theorem leaf_honours (surroundings : Surroundings World Work) (work : Work) :
    (leaf surroundings work).Honours := by
  intro pinned x course
  unfold leaf
  cases ran : surroundings.perform work pinned x course.world with
  | mk after world =>
      refine ⟨[.performed work pinned x after], by cases after <;> rfl, ?_⟩
      cases after with
      | error panic =>
          refine ⟨by simp [Note.asksRollback], List.pairwise_singleton _ _, ?_, ?_⟩
          · intro another stopped
            simpa [Panicked, Note.panic?] using stopped
          · intro _ y finished
            exact Fate.noConfusion finished
      | ok after =>
          refine ⟨?_, List.pairwise_singleton _ _, fun _ stopped => Fate.noConfusion stopped, ?_⟩
          · rintro ⟨note, member, asks⟩
            obtain rfl := List.mem_singleton.mp member
            exact ⟨after, rfl, by simpa [Note.asksRollback] using asks⟩
          · intro _ y finished
            rw [← Fate.finished.inj finished]
            rfl

theorem sequence_honours {steps : List (Behaviour World Work)}
    (each : ∀ step ∈ steps, step.Honours) : (sequence steps).Honours := by
  induction steps with
  | nil => exact fun pinned x course => answers_finished rfl rfl
  | cons step rest ih =>
      intro pinned x course
      have first := each step List.mem_cons_self pinned x course
      have others := ih fun other member => each other (List.mem_cons_of_mem _ member)
      simp only [sequence]
      split
      · cases ran : step pinned x course with
        | mk fate between =>
            rw [ran] at first
            cases fate with
            | panicked panic => exact first
            | unfinished => exact first
            | finished y =>
                by_cases rolledBack : y.outcome = .rolledBack
                · -- What is left of the pipeline does not run.
                  have stopped : sequence rest pinned y between = (.finished y, between) := by
                    cases rest with
                    | nil => rfl
                    | cons next rest => simp [sequence, Exchange.not_goesOn rolledBack]
                  simp only [stopped]
                  exact first
                · exact first.trans rolledBack (others pinned y between)
      · exact answers_finished rfl rfl

/-- The rounds of a guard honour rollbacks: a region that has come back with one is not run again,
and neither is anything else. -/
theorem rounds_honours {handler : Handler (Behaviour World Work)} {region : Behaviour World Work}
    (inside : region.Honours) (paths : handler.PathsHave Honours) (entry : Attempts)
    (pinned : Bool) (fuel : Nat) (x : Exchange) (course : Course World Work) :
    Answers x.redelivery.attempts course
      (rounds surroundings handler region entry pinned fuel x course) := by
  induction fuel generalizing x course with
  | zero =>
      refine ⟨[], rfl, by simp, .nil, fun _ stopped => Fate.noConfusion stopped, ?_⟩
      intro _ y finished
      exact Fate.noConfusion finished
  | succ fuel ih =>
      have first := inside pinned x course
      simp only [rounds]
      cases ran : region pinned x course with
      | mk fate between =>
          rw [ran] at first
          cases fate with
          | panicked panic => exact first
          | unfinished => exact first
          | finished y =>
              have decides := afterRegion_decides handler entry y
              simp only
              generalize Guard.afterRegion handler entry y = decided at decides
              cases decides with
              | rollBack rolledBack same =>
                  exact (first.hand (fun _ => rolledBack) same).close rfl
                    fun _ => ⟨_, rfl, rolledBack⟩
              | pass stays => exact first
              | give stays same told =>
                  refine first.trans stays (answers_note _ _ ?_ ?_)
                  · rcases told with rfl | ⟨attempts, rfl⟩ <;> rfl
                  · rcases told with rfl | ⟨attempts, rfl⟩ <;> exact same
              | @follow z path rule stays staysToo same listed handled =>
                  have handed := first.trans stays
                    (answers_note z (.guarded handler.id .handled) rfl same)
                  have taken := paths rule listed path handled pinned z
                    (between.note (.guarded handler.id .handled))
                  simp only [Course.noteEvent]
                  refine handed.trans staysToo ?_
                  cases took : path pinned z (between.note (.guarded handler.id .handled)) with
                  | mk fate behind =>
                      rw [took] at taken
                      cases fate with
                      | panicked panic => exact taken
                      | unfinished => exact taken
                      | finished w =>
                          obtain ⟨rolls, counts, told⟩ := afterPath_honours entry w
                          have given := taken.hand rolls counts
                          simp only
                          rcases told with told | ⟨attempts, told⟩
                          · simp only [told]
                            exact given
                          · simp only [told]
                            exact given.close rfl fun asks => absurd asks Bool.false_ne_true
              | @redeliver z spacing failure attempt stays staysToo counts =>
                  have waited := delay_journal surroundings handler.id spacing
                    (between.noteEvent handler.id (some (.redelivery failure attempt spacing)))
                  have counted := first.trans stays (answers_note z
                    (.guarded handler.id (.redelivery failure attempt spacing)) rfl counts)
                  simp only
                  refine (counted.trans staysToo (answers_finished waited rfl)).trans staysToo ?_
                  split
                  · exact answers_note _ _ rfl rfl
                  · exact ih z.withoutFailure _

theorem guarded_honours (bound : Nat) {handler : Handler (Behaviour World Work)}
    {region : Behaviour World Work} (inside : region.Honours)
    (paths : handler.PathsHave Honours) :
    (guarded surroundings bound handler region).Honours := by
  intro pinned x course
  let entered := (course.change (surroundings.enter handler.id)).note (.entered handler.id x)
  have governed : Answers x.redelivery.attempts entered
      (rounds surroundings handler region x.redelivery.attempts pinned bound x entered) :=
    rounds_honours inside paths x.redelivery.attempts pinned bound x entered
  obtain ⟨notes, noted, honoured⟩ := governed
  have entering : Honoured x.redelivery.attempts (.finished x)
      ([.entered handler.id x] : List (Note Work)) := honoured_single rfl rfl
  have whole := (entering.append (by simp [Note.asksRollback]) honoured).close
    (.left handler.id) rfl fun asks => absurd asks Bool.false_ne_true
  refine ⟨_, ?_, whole⟩
  have grown : (rounds surroundings handler region x.redelivery.attempts pinned bound x
      entered).2.journal = notes ++ .entered handler.id x :: course.journal := noted
  simp only [guarded, Course.note, Course.change]
  exact congrArg _ (grown.trans (List.append_cons _ _ _))

theorem pinnedApart_honours {behaviour : Behaviour World Work} (honours : behaviour.Honours)
    (x : Exchange) (course : Course World Work) :
    Answers x.redelivery.attempts course (pinnedApart behaviour x course) := by
  obtain ⟨notes, noted, honoured⟩ := honours true x course
  unfold pinnedApart
  cases ran : behaviour true x course with
  | mk fate later =>
      rw [ran] at noted honoured
      cases fate with
      | panicked panic => exact ⟨notes, noted, honoured.contained⟩
      | unfinished => exact ⟨notes, noted, honoured⟩
      | finished y => exact ⟨notes, noted, honoured⟩

theorem guard_honours (bound : Nat) {handler : Handler (Behaviour World Work)}
    {region : Behaviour World Work} (inside : region.Honours)
    (paths : handler.PathsHave Honours) :
    (guard surroundings bound region handler).Honours := by
  have honours : (guarded surroundings bound handler region).Honours :=
    guarded_honours bound inside paths
  intro pinned x course
  simp only [guard]
  split
  · exact honours pinned x course
  · exact pinnedApart_honours honours x course

end Behaviour

/-- **Every step honours rollbacks.** -/
theorem Step.run_honours {World Work : Type} (surroundings : Surroundings World Work)
    (bound : Nat) (step : Step Work) : (step.run surroundings bound).Honours := by
  have hands : (behaviours surroundings bound).Hands Behaviour.Honours :=
    { leaf := fun _ _ work => Behaviour.leaf_honours surroundings work
      pipeline := fun _ _ each => Behaviour.sequence_honours each
      guard := fun _ _ inside paths => Behaviour.guard_honours bound inside paths }
  exact fold_has hands step

/-! ## Deliveries -/

namespace Delivery

variable {World Work : Type} {surroundings : Surroundings World Work} {bound : Nat}
  {root : Step Work} {pinned : Bool} {x : Exchange} {course : Course World Work}
  {start : Attempts} {fate : Fate} {notes : List (Note Work)}

/-- A delivery closes what its root has run. -/
theorem honoured_settle (root : Step Work) (pinned : Bool) (x : Exchange)
    (honoured : Honoured start fate notes) (time : Duration) :
    Honoured start (settle root pinned x fate)
      (closing time (settle root pinned x fate) ++ notes) := by
  have settled : Honoured start (settle root pinned x fate) notes := by
    cases fate with
    | finished y => exact honoured
    | unfinished => exact honoured
    | panicked panic =>
        by_cases bare : Bare root pinned x
        · rw [settle_bare bare]
          exact honoured
        · rw [settle_contained bare]
          exact honoured.contained
  cases outcome : settle root pinned x fate with
  | finished y =>
      rw [outcome] at settled
      exact settled.close (.delivered y.outcome time) rfl
        fun asks => absurd asks Bool.false_ne_true
  | panicked panic => rwa [outcome] at settled
  | unfinished => rwa [outcome] at settled

/-- From that moment a delivery closes, and the last note says that it is rolled back. -/
structure RolledBack (fate : Fate) (later : List (Note Work)) (note : Note Work)
    (earlier : List (Note Work)) : Prop extends RolledBackFrom 0 fate later note earlier where
  told : ∃ time rest, later = .delivered .rolledBack time :: rest

/-- **Rollbacks win.** Whatever the tree of steps, the surroundings and the exchange: from the
moment a leaf marks the exchange for rollback or leaves it with a rollback, or a guard finds that
there is to be one, nothing runs, is taken, passed over or counted any more, and the delivery is
rolled back. Guards find so wherever the first rule that applies asks for it. -/
theorem rollback_wins (surroundings : Surroundings World Work) (bound : Nat) :
    (∀ (root : Step Work) (pinned : Bool) (x : Exchange) (course : Course World Work),
      ∃ notes, (deliver surroundings bound root pinned x course).2.journal =
          notes ++ course.journal ∧
        ∀ later note earlier, notes = later ++ note :: earlier → note.asksRollback = true →
          RolledBack (deliver surroundings bound root pinned x course).1 later note earlier) ∧
    ∀ (handler : Handler (Behaviour World Work)) (entry : Attempts) (x : Exchange)
      (failure : Failure), x.failure = some failure →
      Handler.rollsBack (handler.classify failure) = true →
      Guard.afterRegion handler entry x = (.leave x.markRollback, some .rolledBack) := by
  refine ⟨?_, fun handler entry x failure failed ruled => ?_⟩
  · intro root pinned x course
    cases ran : root.run surroundings bound (pinned || x.transacted) x.beginDelivery course with
    | mk fate after =>
        obtain ⟨notes, noted, honoured⟩ := root.run_honours surroundings bound
          (pinned || x.transacted) x.beginDelivery course
        obtain ⟨time, settled, closed⟩ := deliver_eq ran
        rw [ran] at noted honoured
        have whole := honoured_settle root pinned x honoured time
        rw [← settled] at whole closed
        refine ⟨closing time (deliver surroundings bound root pinned x course).1 ++ notes, ?_, ?_⟩
        · rw [closed, noted, List.append_assoc]
        · intro later note earlier split asks
          rw [split] at whole
          have wins := whole.rolledBackFrom asks
          refine ⟨wins, ?_⟩
          obtain ⟨y, finished, rolledBack⟩ := wins.wins
          rw [finished, closing, rolledBack, List.singleton_append] at split
          cases later with
          | nil =>
              obtain ⟨rfl, _⟩ := List.cons.inj split
              exact absurd asks Bool.false_ne_true
          | cons last rest =>
              obtain ⟨rfl, _⟩ := List.cons.inj split
              exact ⟨time, rest, rfl⟩
  · exact afterRegion_rolledBack failed (.inr (.inr ruled))

/-- A leaf that marks its exchange is not followed by the other one of its pipeline, and not run
again by the guard. -/
example :
    let surroundings : Surroundings Unit Unit :=
      { perform := fun _ _ x world => (.ok (x.withFailure (.step "io" "down")).markRollback, world)
        enter := fun _ world => world, leave := fun _ world => world
        signalled := fun _ _ => false, scale := fun _ => default
        pause := fun _ _ world => (false, world)
        clock := fun _ => 0 }
    let handler : Handler (Step Unit) :=
      { id := 0, policy := { Policy.standard with maxRedeliveries := 3 }, rules := [] }
    let root := Step.guard (.pipeline "p" [.leaf "f" false (), .leaf "g" false ()]) handler
    (deliver surroundings 5 root false default (Course.start ())).2.journal.map
      (fun note => (note.asksRollback, note.closes)) =
        [(false, true), (false, true), (true, true), (true, false), (false, false)] := rfl

end Delivery

end Mediation
