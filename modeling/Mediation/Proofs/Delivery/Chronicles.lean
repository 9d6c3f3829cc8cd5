import Mediation.Proofs.Delivery.Containment
import Mediation.Proofs.Guard.Meaning

/-!
# What every run tells

A run of a step adds notes to the journal. A *chronicle* is a property of runs: of the exchange that
comes, of the end, and of the notes, the latest first. The induction over the tree, and over the
rounds of each guard, is made here for all of them. What it takes is named in `Chronicle`: the runs
of leaves, one run after another, what a guard does with an exchange between the runs of others
(`Guard.Moves`), the notes around a guarded run, and a panic that a guard holds up. Then every run
of every step has the property (`Chronicle.run_tells`), and so has every delivery if the property
closes (`Chronicle.deliver_tells`).

One run follows another only on an exchange that has neither failed nor been marked for rollback.
Pipelines see to that themselves; a guard clears the failure before its region or a handled path
runs, and runs neither on a marked exchange.
-/

set_option autoImplicit false

namespace Mediation

/-! ## What guards do between runs -/

theorem Exchange.markRollback_eq_self {x : Exchange} (marked : x.isRollbackOnly = true) :
    x.markRollback = x := by
  obtain ⟨id, inbound, outbound, failure, transacted, redelivery, properties⟩ := x
  obtain ⟨attempts, lastFailure, handled, continued, rollbackOnly⟩ := redelivery
  obtain rfl : rollbackOnly = true := marked
  rfl

namespace Guard

variable {Path : Type}

/-- What a guard makes of an exchange that its region or a handled path has handed back, and what it
tells of that, the latest first. -/
inductive Moves (handler : Handler Path) (entry : Attempts) (x : Exchange) :
    Exchange → List Event → Prop
  /-- The exchange leaves as it is. -/
  | pass : x.failure = none → x.isRollbackOnly = false → Moves handler entry x x []
  | rollBack : (x.isRollbackOnly = true ∨ ∃ failure, x.failure = some failure ∧
      (failure.isRollback = true ∨ Handler.rollsBack (handler.classify failure) = true)) →
        Moves handler entry x x.markRollback [.rolledBack]
  /-- The region runs again. -/
  | redeliver {failure : Failure} (spacing : Spacing) :
      Retries handler (x.redelivery.attempts.since entry).toNat x failure →
        Moves handler entry x (again x failure)
          [.redelivery failure ((x.recordAttempt failure).redelivery.attempts.since entry) spacing]
  /-- The region was to run again. -/
  | interrupt {failure : Failure} (spacing : Spacing) :
      Retries handler (x.redelivery.attempts.since entry).toNat x failure →
        Moves handler entry x (Guard.interrupt entry (x.recordAttempt failure)).1
          [.interrupted ((x.recordAttempt failure).redelivery.attempts.since entry),
           .redelivery failure ((x.recordAttempt failure).redelivery.attempts.since entry) spacing]
  /-- A handled path runs. -/
  | follow {failure : Failure} {path : Path} :
      Settles handler (x.redelivery.attempts.since entry).toNat x failure →
      handler.ruling failure = .handled path →
        Moves handler entry x (x.recordFailure failure).markHandled.withoutFailure [.handled]
  | passOver {failure : Failure} :
      Settles handler (x.redelivery.attempts.since entry).toNat x failure →
      handler.ruling failure = .continued →
        Moves handler entry x (x.recordFailure failure).markContinued.withoutFailure [.continued]
  | giveUp {failure : Failure} :
      Settles handler (x.redelivery.attempts.since entry).toNat x failure →
      handler.ruling failure = .propagate →
        Moves handler entry x
          (Guard.giveUp (x.recordFailure failure) failure (x.redelivery.attempts.since entry))
          [.exhausted (x.redelivery.attempts.since entry)]
  /-- A handled path has ended, and there is no failure to be wrapped. -/
  | passOn : (∀ failure, x.failure = some failure →
      failure.isExhausted = true ∨ failure.isRollback = true) → Moves handler entry x x []
  /-- A handled path has failed. -/
  | wrap {failure : Failure} : x.failure = some failure → failure.isExhausted = false →
      failure.isRollback = false →
        Moves handler entry x (Guard.giveUp x failure (x.redelivery.attempts.since entry))
          [.pathFailed (x.redelivery.attempts.since entry)]

/-- What follows once a region has handed an exchange back: the guard leaves, a path of its rules
runs, or the region is to run again. -/
inductive Turns (handler : Handler Path) (entry : Attempts) (x : Exchange) :
    Next Path × Option Event → Prop
  | leave {y : Exchange} {event : Option Event} : Moves handler entry x y event.toList →
      Turns handler entry x (.leave y, event)
  | follow {y : Exchange} {path : Path} {rule : Rule Path} : Moves handler entry x y [.handled] →
      Behaviour.goesOn y = true → rule ∈ handler.rules → rule.disposition = .handled path →
        Turns handler entry x (.follow y path, some .handled)
  | redeliver {failure : Failure} (spacing : Spacing) :
      Retries handler (x.redelivery.attempts.since entry).toNat x failure →
        Turns handler entry x (.redeliver (x.recordAttempt failure) spacing,
          some (.redelivery failure
            ((x.recordAttempt failure).redelivery.attempts.since entry) spacing))

variable {handler : Handler Path} {entry : Attempts} {x : Exchange} {failure : Failure}

/-- The exchange that a region runs on again goes on. -/
theorem goesOn_again {count : Nat} (retries : Retries handler count x failure) :
    Behaviour.goesOn (again x failure) = true := by
  have unmarked : (again x failure).isRollbackOnly = false := retries.unmarked
  rw [Behaviour.goesOn, unmarked]
  rfl

theorem turns_settled
    (settles : Settles handler (x.redelivery.attempts.since entry).toNat x failure) :
    Turns handler entry x (dispose (x.recordFailure failure) failure
      ((x.recordFailure failure).redelivery.attempts.since entry) (handler.ruling failure)) := by
  cases ruling : handler.ruling failure with
  | propagate => exact .leave (.giveUp settles ruling)
  | rollback => exact absurd ruling (Handler.ruling_ne_rollback settles.kept)
  | continued => exact .leave (.passOver settles ruling)
  | handled path =>
      obtain ⟨rule, listed, disposition⟩ := Handler.mem_rules_of_ruling ruling
      have unmarked :
          (x.recordFailure failure).markHandled.withoutFailure.isRollbackOnly = false :=
        settles.unmarked
      refine .follow (.follow settles ruling) ?_ listed disposition
      rw [Behaviour.goesOn, unmarked]
      rfl

/-- **What a guard decides** is one of its turns. -/
theorem afterRegion_turns (handler : Handler Path) (entry : Attempts) (x : Exchange) :
    Turns handler entry x (afterRegion handler entry x) := by
  cases failed : x.failure with
  | none =>
      cases marked : x.isRollbackOnly with
      | true =>
          have stays : Turns handler entry x (rollBack x) := by
            have rolls : Moves handler entry x x.markRollback [.rolledBack] :=
              .rollBack (.inl marked)
            rw [Exchange.markRollback_eq_self marked] at rolls
            exact .leave rolls
          simpa [afterRegion, failed, marked] using stays
      | false =>
          have passes : Turns handler entry x (.leave x, none) := .leave (.pass failed marked)
          simpa [afterRegion, failed, marked] using passes
  | some failure =>
      by_cases rollback : x.isRollbackOnly = true ∨ failure.isRollback = true ∨
          Handler.rollsBack (handler.classify failure) = true
      · rw [afterRegion_rolledBack failed rollback]
        exact .leave (.rollBack (rollback.imp id fun asked => ⟨failure, failed, asked⟩))
      · simp only [not_or, Bool.not_eq_true] at rollback
        obtain ⟨unmarked, ordinary, kept⟩ := rollback
        by_cases retries : Retries handler (x.redelivery.attempts.since entry).toNat x failure
        · rw [afterRegion_retries retries]
          exact .redeliver _ retries
        · have settles := settles_of_not_retries failed unmarked ordinary kept retries
          rw [afterRegion_settles settles]
          exact turns_settled settles

/-- What a guard does after a handled path is one of its moves. -/
theorem afterPath_moves (handler : Handler Path) (entry : Attempts) (x : Exchange) :
    Moves handler entry x (afterPath entry x).1 (afterPath entry x).2.toList := by
  unfold afterPath
  cases failed : x.failure with
  | none => exact .passOn (by simp [failed])
  | some failure =>
      simp only
      split
      · next spared =>
          refine .passOn fun other same => ?_
          rw [failed, Option.some_inj] at same
          simpa [← same] using spared
      · next wrapped =>
          simp only [Bool.or_eq_true, not_or, Bool.not_eq_true] at wrapped
          exact .wrap failed wrapped.1 wrapped.2

end Guard

/-! ## Chronicles -/

/-- The end of a leaf. -/
def Fate.ofLeaf : Except Panic Exchange → Fate
  | .ok after => .finished after
  | .error panic => .panicked panic

variable {World Work : Type}

/-- No leaf has panicked. -/
def Calm (notes : List (Note Work)) : Prop := ∀ note ∈ notes, note.panic? = none

theorem calm_append {later earlier : List (Note Work)} :
    Calm (later ++ earlier) ↔ Calm later ∧ Calm earlier := List.forall_mem_append

theorem calm_cons {note : Note Work} {notes : List (Note Work)} :
    Calm (note :: notes) ↔ note.panic? = none ∧ Calm notes := List.forall_mem_cons

theorem Calm.not_panicked {notes : List (Note Work)} (calm : Calm notes) (panic : Panic) :
    ¬ Panicked notes panic := by
  rintro ⟨note, member, was⟩
  simp [calm note member] at was

/-- A property of runs, of the exchange that comes, the end, and the notes, the latest first, that
steps have if their parts do. -/
structure Chronicle (tells : Exchange → Fate → List (Note Work) → Prop) : Prop where
  /-- Nothing runs. -/
  idle : ∀ x, tells x (.finished x) []
  /-- The bound on the rounds of a guard is reached. -/
  cut : ∀ x, tells x .unfinished []
  leaf : ∀ work pinned x after, tells x (Fate.ofLeaf after) [.performed work pinned x after]
  /-- One run follows another. -/
  follows : ∀ {x y : Exchange} {fate : Fate} {later earlier : List (Note Work)},
    tells x (.finished y) earlier → Behaviour.goesOn y = true → tells y fate later →
    tells x fate (later ++ earlier)
  moves : ∀ {Path : Type} {handler : Handler Path} {entry : Attempts} {x y z : Exchange}
    {events : List Guard.Event} {notes : List (Note Work)},
    tells x (.finished y) notes → Guard.Moves handler entry y z events →
      tells x (.finished z) (events.map (.guarded handler.id) ++ notes)
  /-- A guarded run is entered and left. -/
  encloses : ∀ {x fate notes} (handler : HandlerId), tells x fate notes →
    tells x fate (.left handler :: (notes ++ [.entered handler x]))
  /-- A guard holds a panic up. -/
  holds : ∀ {x panic notes}, tells x (.panicked panic) notes →
    tells x (.finished (x.withFailure panic.joinFailure)) notes

namespace Behaviour

/-- The notes that a run adds to the journal, and its end, have a property. -/
def Adds (holds : Fate → List (Note Work) → Prop) (course : Course World Work)
    (outcome : Fate × Course World Work) : Prop :=
  ∃ notes, outcome.2.journal = notes ++ course.journal ∧ holds outcome.1 notes

/-- Every run of a behaviour has a property. -/
def Tell (tells : Exchange → Fate → List (Note Work) → Prop) (behaviour : Behaviour World Work) :
    Prop :=
  ∀ pinned x course, Adds (tells x) course (behaviour pinned x course)

end Behaviour

namespace Chronicle

open Behaviour

variable {tells : Exchange → Fate → List (Note Work) → Prop}
  {surroundings : Surroundings World Work} {course middle : Course World Work}
  {outcome : Fate × Course World Work} {x y z : Exchange}

theorem adds_idle (chronicle : Chronicle tells) (same : middle.journal = course.journal) :
    Adds (tells x) course (.finished x, middle) :=
  ⟨[], by simp [same], chronicle.idle x⟩

theorem adds_trans (chronicle : Chronicle tells)
    (first : Adds (tells x) course (.finished y, middle)) (on : goesOn y = true)
    (second : Adds (tells y) middle outcome) : Adds (tells x) course outcome := by
  obtain ⟨earlier, before, told⟩ := first
  obtain ⟨later, behind, tellsOn⟩ := second
  exact ⟨later ++ earlier, by rw [behind, before, List.append_assoc],
    chronicle.follows told on tellsOn⟩

/-- A guard moves, and the journal says so. -/
theorem adds_move (chronicle : Chronicle tells) {Path : Type} {handler : Handler Path}
    {entry : Attempts} {events : List Guard.Event} {later : Course World Work}
    (first : Adds (tells x) course (.finished y, middle))
    (move : Guard.Moves handler entry y z events)
    (told : later.journal = events.map (.guarded handler.id) ++ middle.journal) :
    Adds (tells x) course (.finished z, later) := by
  obtain ⟨notes, before, tellsIt⟩ := first
  exact ⟨events.map (.guarded handler.id) ++ notes, by rw [told, before, List.append_assoc],
    chronicle.moves tellsIt move⟩

theorem journal_noteEvent (course : Course World Work) (handler : HandlerId)
    (event : Option Guard.Event) :
    (course.noteEvent handler event).journal =
      event.toList.map (.guarded handler) ++ course.journal := by
  cases event <;> rfl

theorem leaf_tells (chronicle : Chronicle tells) (surroundings : Surroundings World Work)
    (work : Work) : (Behaviour.leaf surroundings work).Tell tells := by
  intro pinned x course
  unfold Behaviour.leaf
  cases ran : surroundings.perform work pinned x course.world with
  | mk after world =>
      have told := chronicle.leaf work pinned x after
      cases after <;> exact ⟨[_], rfl, told⟩

theorem sequence_tells (chronicle : Chronicle tells) {steps : List (Behaviour World Work)}
    (each : ∀ step ∈ steps, step.Tell tells) : (Behaviour.sequence steps).Tell tells := by
  induction steps with
  | nil => exact fun pinned x course => chronicle.adds_idle rfl
  | cons step rest ih =>
      intro pinned x course
      have first := each step List.mem_cons_self pinned x course
      have others := ih fun other member => each other (List.mem_cons_of_mem _ member)
      simp only [Behaviour.sequence]
      split
      · cases ran : step pinned x course with
        | mk fate between =>
            rw [ran] at first
            cases fate with
            | panicked panic => exact first
            | unfinished => exact first
            | finished y =>
                by_cases on : goesOn y = true
                · exact chronicle.adds_trans first on (others pinned y between)
                · have stopped :
                      Behaviour.sequence rest pinned y between = (.finished y, between) := by
                    cases rest with
                    | nil => rfl
                    | cons next rest => simp [Behaviour.sequence, on]
                  simp only [stopped]
                  exact first
      · exact chronicle.adds_idle rfl

/-- The rounds of a guard tell like a single run. -/
theorem rounds_tells (chronicle : Chronicle tells) (surroundings : Surroundings World Work)
    {handler : Handler (Behaviour World Work)}
    {region : Behaviour World Work} (inside : region.Tell tells)
    (paths : handler.PathsHave (Tell tells)) (entry : Attempts) (pinned : Bool) (fuel : Nat)
    (x : Exchange) (course : Course World Work) :
    Adds (tells x) course
      (Behaviour.rounds surroundings handler region entry pinned fuel x course) := by
  induction fuel generalizing x course with
  | zero => exact ⟨[], rfl, chronicle.cut x⟩
  | succ fuel ih =>
      have first := inside pinned x course
      simp only [Behaviour.rounds]
      cases ran : region pinned x course with
      | mk fate between =>
          rw [ran] at first
          cases fate with
          | panicked panic => exact first
          | unfinished => exact first
          | finished y =>
              have turns := Guard.afterRegion_turns handler entry y
              simp only
              generalize Guard.afterRegion handler entry y = decided at turns
              cases turns with
              | leave move =>
                  exact chronicle.adds_move first move (journal_noteEvent between handler.id _)
              | @follow z path rule move on listed handled =>
                  have handed := chronicle.adds_move first move
                    (journal_noteEvent between handler.id (some .handled))
                  have taken := chronicle.adds_trans handed on
                    (paths rule listed path handled pinned z _)
                  simp only
                  cases took : path pinned z (between.noteEvent handler.id (some .handled)) with
                  | mk fate behind =>
                      rw [took] at taken
                      cases fate with
                      | panicked panic => exact taken
                      | unfinished => exact taken
                      | finished w =>
                          exact chronicle.adds_move taken (Guard.afterPath_moves handler entry w)
                            (journal_noteEvent behind handler.id _)
              | @redeliver failure spacing retries =>
                  have waited := delay_journal surroundings handler.id spacing
                    (between.noteEvent handler.id (some (.redelivery failure
                      ((y.recordAttempt failure).redelivery.attempts.since entry) spacing)))
                  simp only
                  split
                  · refine chronicle.adds_move first (.interrupt spacing retries) ?_
                    rw [journal_noteEvent, waited, journal_noteEvent]
                    rfl
                  · refine chronicle.adds_trans
                      (chronicle.adds_move first (.redeliver spacing retries) ?_)
                      (Guard.goesOn_again retries) (ih _ _)
                    rw [waited, journal_noteEvent]
                    rfl

theorem guarded_tells (chronicle : Chronicle tells) (bound : Nat)
    {handler : Handler (Behaviour World Work)} {region : Behaviour World Work}
    (inside : region.Tell tells) (paths : handler.PathsHave (Tell tells)) :
    (Behaviour.guarded surroundings bound handler region).Tell tells := by
  intro pinned x course
  obtain ⟨notes, noted, told⟩ := chronicle.rounds_tells surroundings inside paths
    x.redelivery.attempts pinned bound x
    ((course.change (surroundings.enter handler.id)).note (.entered handler.id x))
  refine ⟨Note.left handler.id :: (notes ++ [Note.entered handler.id x]), ?_,
    chronicle.encloses handler.id told⟩
  exact congrArg (Note.left handler.id :: ·)
    (noted.trans (List.append_cons notes (Note.entered handler.id x) course.journal))

theorem guard_tells (chronicle : Chronicle tells) (bound : Nat)
    {handler : Handler (Behaviour World Work)} {region : Behaviour World Work}
    (inside : region.Tell tells) (paths : handler.PathsHave (Tell tells)) :
    (Behaviour.guard surroundings bound region handler).Tell tells := by
  have told : (Behaviour.guarded surroundings bound handler region).Tell tells :=
    chronicle.guarded_tells bound inside paths
  intro pinned x course
  simp only [Behaviour.guard]
  split
  · exact told pinned x course
  · obtain ⟨notes, noted, tellsIt⟩ := told true x course
    unfold pinnedApart
    cases ran : Behaviour.guarded surroundings bound handler region true x course with
    | mk fate later =>
        rw [ran] at noted tellsIt
        cases fate with
        | panicked panic => exact ⟨notes, noted, chronicle.holds tellsIt⟩
        | unfinished => exact ⟨notes, noted, tellsIt⟩
        | finished y => exact ⟨notes, noted, tellsIt⟩

/-- **Every run of every step tells what a chronicle says.** -/
theorem run_tells (chronicle : Chronicle tells) (surroundings : Surroundings World Work)
    (bound : Nat) (step : Step Work) : (step.run surroundings bound).Tell tells := by
  have hands : (behaviours surroundings bound).Hands (Tell tells) :=
    { leaf := fun _ _ work => chronicle.leaf_tells surroundings work
      pipeline := fun _ _ each => chronicle.sequence_tells each
      guard := fun _ _ inside paths => chronicle.guard_tells bound inside paths }
  exact Step.fold_has hands step

/-! ### Deliveries -/

/-- A property of runs that a panic which is contained keeps, and the entry at the end of a
delivery. -/
structure Closes (tells : Exchange → Fate → List (Note Work) → Prop) : Prop where
  contains : ∀ {x panic notes} (failure : Failure), tells x (.panicked panic) notes →
    tells x (.finished (x.withFailure failure)) notes
  delivered : ∀ {x y notes} (outcome : Outcome) (time : Duration), tells x (.finished y) notes →
    tells x (.finished y) (.delivered outcome time :: notes)

/-- **Every delivery tells what a chronicle says** that closes. -/
theorem deliver_tells (chronicle : Chronicle tells) (closes : Closes tells)
    (surroundings : Surroundings World Work) (bound : Nat) (root : Step Work) (pinned : Bool)
    (x : Exchange) (course : Course World Work) :
    Adds (tells x.beginDelivery) course
      (Delivery.deliver surroundings bound root pinned x course) := by
  cases ran : root.run surroundings bound (pinned || x.transacted) x.beginDelivery course with
  | mk fate later =>
      obtain ⟨notes, noted, told⟩ := chronicle.run_tells surroundings bound root
        (pinned || x.transacted) x.beginDelivery course
      obtain ⟨time, settled, closed⟩ := Delivery.deliver_eq ran
      rw [ran] at noted told
      have contained : tells x.beginDelivery (Delivery.settle root pinned x fate) notes := by
        cases fate with
        | finished y => exact told
        | unfinished => exact told
        | panicked panic =>
            by_cases bare : Delivery.Bare root pinned x
            · rw [Delivery.settle_bare bare]
              exact told
            · rw [Delivery.settle_contained bare]
              exact closes.contains _ told
      refine ⟨Delivery.closing time (Delivery.settle root pinned x fate) ++ notes, ?_, ?_⟩
      · rw [closed, noted, List.append_assoc]
      · rw [settled]
        cases outcome : Delivery.settle root pinned x fate with
        | finished y =>
            rw [outcome] at contained
            exact closes.delivered _ time contained
        | panicked panic => rwa [outcome] at contained
        | unfinished => rwa [outcome] at contained

end Chronicle

/-- The engine counts the entries of its journal that have the counter. -/
theorem Course.value_tally {World Work : Type} (course : Course World Work) {counter : Counter}
    {counts : Note Work → Bool} (has : ∀ note, note.counter? = some counter ↔ counts note = true) :
    course.tally.value counter = course.journal.countP counts := by
  rw [Tally.value, Course.tally, List.count, List.countP_filterMap]
  refine List.countP_congr fun note _ => ?_
  rw [← has]
  cases note.counter? <;> simp

end Mediation
