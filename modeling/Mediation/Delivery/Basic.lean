import Mediation.Guard
import Mediation.Pinning
import Mediation.Tally

/-!
# Deliveries

A delivery takes an exchange through a tree of steps. The tree says in which order leaves run and
when guards run their regions again; the *surroundings* say what a leaf does, what happens while a
guard waits, what time it is, and which scale chance draws for a wait. They may change in any way
while a delivery goes on, so everything that other tasks do in the meantime is part of them.

The *journal* of a delivery lists every leaf that ran, with the exchange before and after, and every
decision of a guard. What the engine counts is read off the journal (`Note.counter?`).
-/

set_option autoImplicit false

namespace Mediation

/-- One entry of a journal. -/
inductive Note (Work : Type)
  /-- A leaf ran. -/
  | performed (work : Work) (pinned : Bool) (before : Exchange) (after : Except Panic Exchange)
  /-- A guarded run began. -/
  | entered (handler : HandlerId) (x : Exchange)
  /-- A guarded run told something. -/
  | guarded (handler : HandlerId) (event : Guard.Event)
  /-- A guarded run ended. -/
  | left (handler : HandlerId)
  /-- A delivery ended. -/
  | delivered (outcome : Outcome) (time : Duration)

namespace Note

variable {Work : Type}

/-- The counter of an event of a guarded run. -/
def eventCounter? : Guard.Event → Option Counter
  | .redelivery _ _ _ => some .redeliveries
  | .handled | .continued => some .failuresHandled
  | .rolledBack => some .rollbacks
  | .exhausted _ => some .redeliveryExhausted
  | .interrupted _ | .pathFailed _ => none

def outcomeCounter : Outcome → Counter
  | .completed => .exchangesCompleted
  | .failed => .exchangesFailed
  | .rolledBack => .exchangesRolledBack

def counter? : Note Work → Option Counter
  | guarded _ event => eventCounter? event
  | delivered outcome _ => some (outcomeCounter outcome)
  | _ => none

/-- The time that is noted for an entry. -/
def time? : Note Work → Option (Histogram × Duration)
  | delivered _ time => some (.exchangeDuration, time)
  | _ => none

end Note

/-- How a run of a step ends. -/
inductive Fate
  | finished (x : Exchange)
  | panicked (panic : Panic)
  /-- The bound on the rounds of a guard was reached. -/
  | unfinished

/-- What a delivery runs in. -/
structure Surroundings (World Work : Type) where
  /-- Runs a leaf, pinned or not. -/
  perform : Work → Bool → Exchange → World → Except Panic Exchange × World
  /-- A guarded run begins. -/
  enter : HandlerId → World → World
  /-- A guarded run ends. -/
  leave : HandlerId → World → World
  /-- Whether a handler shuts down. -/
  signalled : HandlerId → World → Bool
  /-- What chance scales the next wait by. -/
  scale : World → Scale
  /-- Waits, and says whether the handler began to shut down first. -/
  pause : HandlerId → Duration → World → Bool × World
  /-- What the clock shows. -/
  clock : World → Instant

/-- The surroundings at one moment of a delivery, and its journal so far, the latest entry first. -/
structure Course (World Work : Type) where
  world : World
  journal : List (Note Work)

namespace Course

variable {World Work : Type}

def start (world : World) : Course World Work := { world, journal := [] }

def note (course : Course World Work) (entry : Note Work) : Course World Work :=
  { course with journal := entry :: course.journal }

/-- The course with an entry, if there is one. -/
def noteEvent (course : Course World Work) (handler : HandlerId) (event : Option Guard.Event) :
    Course World Work :=
  match event with
  | some event => course.note (.guarded handler event)
  | none => course

/-- The course in changed surroundings. -/
def change (course : Course World Work) (change : World → World) : Course World Work :=
  { course with world := change course.world }

def tally (course : Course World Work) : Tally :=
  { counted := course.journal.filterMap Note.counter?
    observed := course.journal.filterMap Note.time? }

end Course

/-- What a step does with an exchange, pinned or not. -/
abbrev Behaviour (World Work : Type) : Type :=
  Bool → Exchange → Course World Work → Fate × Course World Work

namespace Behaviour

variable {World Work : Type}

/-! ## Leaves -/

def leaf (surroundings : Surroundings World Work) (work : Work) : Behaviour World Work :=
  fun pinned x course =>
    let (after, world) := surroundings.perform work pinned x course.world
    let noted := { course with world }.note (.performed work pinned x after)
    match after with
    | .ok after => (.finished after, noted)
    | .error panic => (.panicked panic, noted)

/-! ## Pipelines -/

/-- Whether a pipeline runs its next step on an exchange. -/
def goesOn (x : Exchange) : Bool := !(x.isFailed || x.isRollbackOnly)

/-- Steps run in turn, until one leaves a failure or a mark for rollback. -/
def sequence : List (Behaviour World Work) → Behaviour World Work
  | [] => fun _ x course => (.finished x, course)
  | step :: rest => fun pinned x course =>
    if goesOn x then
      match step pinned x course with
      | (.finished after, course) => sequence rest pinned after course
      | stopped => stopped
    else (.finished x, course)

/-- Two sequences in turn are one sequence. -/
theorem sequence_append (first second : List (Behaviour World Work)) (pinned : Bool) (x : Exchange)
    (course : Course World Work) :
    sequence (first ++ second) pinned x course =
      match sequence first pinned x course with
      | (.finished after, course) => sequence second pinned after course
      | stopped => stopped := by
  induction first generalizing x course with
  | nil => rfl
  | cons step rest ih =>
    simp only [List.cons_append, sequence]
    split
    · split <;> simp_all
    · cases second with
      | nil => rfl
      | cons next others => simp_all [sequence]

/-! ## Guards -/

/-- Waits before a region runs again, and says whether the handler shuts down. -/
def delay (surroundings : Surroundings World Work) (handler : HandlerId) (spacing : Spacing)
    (course : Course World Work) : Bool × Course World Work :=
  let time := spacing.time (surroundings.scale course.world)
  if surroundings.signalled handler course.world then (true, course)
  else if time.isZero then (false, course)
  else
    let (interrupted, world) := surroundings.pause handler time course.world
    (interrupted, { course with world })

/-- The rounds of a guard: each runs the region once. At most `rounds` of them are run. -/
def rounds (surroundings : Surroundings World Work) (handler : Handler (Behaviour World Work))
    (region : Behaviour World Work) (entry : Attempts) (pinned : Bool) :
    Nat → Exchange → Course World Work → Fate × Course World Work
  | 0, _, course => (.unfinished, course)
  | fuel + 1, x, course =>
    match region pinned x course with
    | (.finished after, course) =>
      let (next, event) := Guard.afterRegion handler entry after
      let course := course.noteEvent handler.id event
      match next with
      | .leave x => (.finished x, course)
      | .follow x path =>
        match path pinned x course with
        | (.finished after, course) =>
          let (x, event) := Guard.afterPath entry after
          (.finished x, course.noteEvent handler.id event)
        | stopped => stopped
      | .redeliver x spacing =>
        let (interrupted, course) := delay surroundings handler.id spacing course
        if interrupted then
          let (x, event) := Guard.interrupt entry x
          (.finished x, course.noteEvent handler.id event)
        else rounds surroundings handler region entry pinned fuel x.withoutFailure course
    | stopped => stopped

/-- A guarded run, from the moment it enters to the moment it leaves. -/
def guarded (surroundings : Surroundings World Work) (bound : Nat)
    (handler : Handler (Behaviour World Work)) (region : Behaviour World Work) :
    Behaviour World Work :=
  fun pinned x course =>
    let entered := (course.change (surroundings.enter handler.id)).note (.entered handler.id x)
    let (fate, ended) :=
      rounds surroundings handler region x.redelivery.attempts pinned bound x entered
    (fate, (ended.change (surroundings.leave handler.id)).note (.left handler.id))

/-- Runs something pinned; a panic becomes a failure of the exchange as it came. -/
def pinnedApart (behaviour : Behaviour World Work) (x : Exchange) (course : Course World Work) :
    Fate × Course World Work :=
  match behaviour true x course with
  | (.panicked panic, course) => (.finished (x.withFailure panic.joinFailure), course)
  | other => other

/-- A guard. A transacted exchange that is not pinned yet is pinned for the guarded run. -/
def guard (surroundings : Surroundings World Work) (bound : Nat)
    (region : Behaviour World Work) (handler : Handler (Behaviour World Work)) :
    Behaviour World Work :=
  let run := guarded surroundings bound handler region
  fun pinned x course =>
    if !x.transacted || pinned then run pinned x course else pinnedApart run x course

end Behaviour

/-! ## Steps -/

def behaviours {World Work : Type} (surroundings : Surroundings World Work) (bound : Nat) :
    Step.Algebra Work (Behaviour World Work) :=
  { leaf := fun _ _ work => Behaviour.leaf surroundings work
    pipeline := fun _ steps => Behaviour.sequence steps
    guard := Behaviour.guard surroundings bound }

/-- What a step does with an exchange. Every guard runs its region at most `bound` times. -/
def Step.run {World Work : Type} (surroundings : Surroundings World Work) (bound : Nat)
    (step : Step Work) : Behaviour World Work :=
  step.fold (behaviours surroundings bound)

/-- A pipeline does what its steps do in turn. -/
theorem Step.run_pipeline {World Work : Type} (surroundings : Surroundings World Work)
    (bound : Nat) (name : String) (steps : List (Step Work)) :
    (Step.pipeline name steps).run surroundings bound =
      Behaviour.sequence (steps.map fun step => step.run surroundings bound) := by
  simp only [Step.run, Step.fold, Step.foldAll_eq_map]
  rfl

/-! ## Deliveries -/

namespace Delivery

variable {World Work : Type}

/-- Contains a panic where the step runs: the exchange is then the one that entered. An immediate
root panics while it is called, before anything could contain it. -/
def contain (root : Step Work) (entered : Exchange) : Fate → Fate
  | .panicked panic =>
    if root.isImmediate then .panicked panic
    else .finished (entered.withFailure (Panic.failure panic.message))
  | other => other

/-- Runs the root of a delivery on the exchange that enters it. -/
def runRoot (surroundings : Surroundings World Work) (bound : Nat) (root : Step Work)
    (pinned : Bool) (entered : Exchange) (course : Course World Work) :
    Fate × Course World Work :=
  let contained : Behaviour World Work := fun pinned x course =>
    let (fate, course) := root.run surroundings bound pinned x course
    (contain root entered fate, course)
  if entered.transacted && !pinned then Behaviour.pinnedApart contained entered course
  else contained pinned entered course

/-- One delivery: the bookkeeping of redeliveries starts anew, the root runs, and the outcome is
counted with the time that it took. -/
def deliver (surroundings : Surroundings World Work) (bound : Nat) (root : Step Work)
    (pinned : Bool) (x : Exchange) (course : Course World Work) : Fate × Course World Work :=
  let began := surroundings.clock course.world
  match runRoot surroundings bound root pinned x.beginDelivery course with
  | (.finished after, course) =>
    let time := Duration.ofNanos (surroundings.clock course.world - began)
    (.finished after, course.note (.delivered after.outcome time))
  | stopped => stopped

end Delivery

end Mediation
