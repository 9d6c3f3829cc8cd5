import Mathlib.Logic.Function.Basic
import Mediation.Proofs.Delivery.Correspondence

/-!
# Deliveries on threads

Whether some code is pinned is a flag of the thread that the code happens to run on. Here a delivery
runs on threads: a leaf and a guard look at the flag of the thread that they find themselves on,
pinning borrows a thread, raises its flag and lowers it again however the run ends, and a delivery
that nothing holds to its thread may go on elsewhere whenever it has waited. Nobody hands the flag
down.

Run like this, a tree does what it does when the flag is handed down to it
(`Step.runOn_corresponds`, `Delivery.deliverOn_corresponds`), whatever its leaves do to the mark of
a transaction, and all flags are then as they were.

What is asked of the runtime is that it lends and goes on with threads whose flag is down
(`Runtime.Rested`). A delivery leaves the flags as they were, so it keeps that up by itself.
-/

set_option autoImplicit false

namespace Mediation

/-! ## Threads -/

/-- The identity of a thread. -/
abbrev ThreadId := Nat

/-- The threads as a delivery finds them. -/
structure Threads where
  /-- The threads whose flag is up. -/
  flagged : ThreadId → Bool
  /-- Where the delivery runs. -/
  current : ThreadId
  /-- Whether it stays there when it waits. -/
  held : Bool

/-- Where the runtime lets a delivery run. -/
structure Runtime (World : Type) where
  /-- The thread that is lent for pinned work. -/
  lend : World → ThreadId
  /-- The thread on which a delivery goes on after it has waited. -/
  resume : World → ThreadId

/-- The threads that the runtime gives have no flag up. -/
def Runtime.Rested {World : Type} (runtime : Runtime World) (flagged : ThreadId → Bool) : Prop :=
  ∀ world, flagged (runtime.lend world) = false ∧ flagged (runtime.resume world) = false

variable {World Work : Type}

namespace Threads

/-- What code on the current thread finds when it looks at the flag. -/
def isPinned (threads : Threads) : Bool := threads.flagged threads.current

/-- The threads after a wait. -/
def afterWait (threads : Threads) (runtime : Runtime World) (world : World) : Threads :=
  if threads.held then threads else { threads with current := runtime.resume world }

/-- The threads as pinned work finds them on the thread that is lent for it. -/
def lent (threads : Threads) (thread : ThreadId) : Threads :=
  { flagged := Function.update threads.flagged thread true, current := thread, held := true }

/-- The threads once pinned work is over and its flag is lowered: the caller's thread again. -/
def returned (threads : Threads) (caller : Threads) : Threads :=
  { caller with flagged := Function.update threads.flagged threads.current false }

end Threads

/-- Surroundings with threads. A leaf may wait, and so does a guard before a redelivery. -/
def Surroundings.onThreads (surroundings : Surroundings World Work) (runtime : Runtime World) :
    Surroundings (Threads × World) Work :=
  { perform := fun work pinned x (threads, world) =>
      let (after, world) := surroundings.perform work pinned x world
      (after, threads.afterWait runtime world, world)
    enter := fun handler (threads, world) => (threads, surroundings.enter handler world)
    leave := fun handler (threads, world) => (threads, surroundings.leave handler world)
    signalled := fun handler (_, world) => surroundings.signalled handler world
    scale := fun (_, world) => surroundings.scale world
    pause := fun handler time (threads, world) =>
      let (interrupted, world) := surroundings.pause handler time world
      (interrupted, threads.afterWait runtime world, world)
    clock := fun (_, world) => surroundings.clock world }

/-- A run on threads. -/
abbrev Threaded (World Work : Type) : Type :=
  Exchange → Course (Threads × World) Work → Fate × Course (Threads × World) Work

/-- Runs something pinned. On a thread whose flag is up it runs there; otherwise a thread is lent,
and the caller waits for it. -/
def Threaded.pin (runtime : Runtime World) (run : Threaded World Work) : Threaded World Work :=
  fun x course =>
    let (caller, world) := course.world
    if caller.isPinned then run x course
    else
      let (fate, ended) := run x { course with world := (caller.lent (runtime.lend world), world) }
      let (threads, world) := ended.world
      let back := { ended with world := ((threads.returned caller).afterWait runtime world, world) }
      match fate with
      | .panicked panic => (.finished (x.withFailure panic.joinFailure), back)
      | other => (other, back)

/-- Steps on threads: leaves and guards look at the current thread. The flag that a behaviour is
handed is not looked at. -/
def threaded (surroundings : Surroundings World Work) (runtime : Runtime World) (bound : Nat) :
    Step.Algebra Work (Behaviour (Threads × World) Work) :=
  { leaf := fun _ _ work _ x course =>
      Behaviour.leaf (surroundings.onThreads runtime) work course.world.1.isPinned x course
    pipeline := fun _ steps => Behaviour.sequence steps
    guard := fun region handler handed =>
      let run := Behaviour.guarded (surroundings.onThreads runtime) bound handler region handed
      fun x course =>
        if !x.transacted || course.world.1.isPinned then run x course
        else Threaded.pin runtime run x course }

/-- What a step does with an exchange on the current thread. -/
def Step.runOn (surroundings : Surroundings World Work) (runtime : Runtime World) (bound : Nat)
    (step : Step Work) : Threaded World Work :=
  step.fold (threaded surroundings runtime bound) false

namespace Delivery

/-- Runs the root of a delivery on the exchange that enters it, pinned if that is transacted. -/
def runRootOn (surroundings : Surroundings World Work) (runtime : Runtime World) (bound : Nat)
    (root : Step Work) (entered : Exchange) (course : Course (Threads × World) Work) :
    Fate × Course (Threads × World) Work :=
  let contained : Threaded World Work := fun x course =>
    let (fate, course) := root.runOn surroundings runtime bound x course
    (contain root entered fate, course)
  if entered.transacted then Threaded.pin runtime contained entered course
  else contained entered course

/-- One delivery from the current thread. -/
def deliverOn (surroundings : Surroundings World Work) (runtime : Runtime World) (bound : Nat)
    (root : Step Work) : Threaded World Work :=
  fun x course =>
    let began := surroundings.clock course.world.2
    match runRootOn surroundings runtime bound root x.beginDelivery course with
    | (.finished after, course) =>
      let time := Duration.ofNanos (surroundings.clock course.world.2 - began)
      (.finished after, course.note (.delivered after.outcome time))
    | stopped => stopped

end Delivery

/-! ## Handed down or looked up -/

/-- Where a delivery is while the flag that a step is handed is the one that it would find: the
flags are known, and so is whether the delivery stays on its thread. -/
structure Whereabouts (World : Type) where
  runtime : Runtime World
  flagged : ThreadId → Bool
  pinned : Bool
  held : Bool
  /-- The thread that it stays on, if it does. -/
  thread : ThreadId
  /-- Pinned work stays on its thread. -/
  steady : pinned = true → held = true
  /-- Other work goes on where no flag is up. -/
  rested : pinned = false → runtime.Rested flagged

namespace Whereabouts

variable (place : Whereabouts World)

/-- The two courses are the same, and the second one is at the place. -/
structure Level (c : Course World Work) (d : Course (Threads × World) Work) : Prop where
  world : d.world.2 = c.world
  journal : d.journal = c.journal
  flagged : d.world.1.flagged = place.flagged
  held : d.world.1.held = place.held
  thread : place.held = true → d.world.1.current = place.thread
  pinned : d.world.1.isPinned = place.pinned

variable {place} {c : Course World Work} {d : Course (Threads × World) Work}

theorem Level.note (level : place.Level c d) (entry : Note Work) :
    place.Level (c.note entry) (d.note entry) :=
  { level with journal := congrArg (entry :: ·) level.journal }

/-- Waiting does not leave the place. -/
theorem Level.afterWait (level : place.Level c d) (world : World) :
    place.Level { c with world }
      { d with world := (d.world.1.afterWait place.runtime world, world) } := by
  cases held : place.held with
  | true =>
      have stays : d.world.1.afterWait place.runtime world = d.world.1 := by
        rw [Threads.afterWait, level.held, held]
        rfl
      rw [stays]
      exact { level with world := rfl }
  | false =>
      -- Whoever is not held is not pinned, and goes on where no flag is up.
      have moves : d.world.1.afterWait place.runtime world =
          { d.world.1 with current := place.runtime.resume world } :=
        if_neg (by simp [level.held, held])
      have unpinned : place.pinned = false := by
        cases pinned : place.pinned with
        | false => rfl
        | true => exact absurd (place.steady pinned) (by simp [held])
      have down : place.flagged (place.runtime.resume world) = false :=
        (place.rested unpinned world).2
      rw [moves]
      refine ⟨rfl, level.journal, level.flagged, level.held, fun stays => ?_, ?_⟩
      · rw [held] at stays
        exact absurd stays Bool.false_ne_true
      · rw [unpinned, ← down, ← level.flagged]
        rfl

theorem lockstep (surroundings : Surroundings World Work) (place : Whereabouts World) :
    Lockstep surroundings (surroundings.onThreads place.runtime) Eq place.Level where
  enter {c d x y} handler level same := by
    cases same
    have entered : place.Level (c.change (surroundings.enter handler))
        (d.change ((surroundings.onThreads place.runtime).enter handler)) :=
      { level with world := congrArg (surroundings.enter handler) level.world }
    exact entered.note _
  leave {c d} handler level := by
    have left : place.Level (c.change (surroundings.leave handler))
        (d.change ((surroundings.onThreads place.runtime).leave handler)) :=
      { level with world := congrArg (surroundings.leave handler) level.world }
    exact left.note _
  guarded handler event level := level.note _
  signalled handler level := congrArg (surroundings.signalled handler) level.world.symm
  scale level := congrArg surroundings.scale level.world.symm
  pause {c d} handler time level := by
    have waited := level.afterWait (surroundings.pause handler time c.world).2
    refine ⟨?_, ?_⟩
    · simp only [Surroundings.onThreads, level.world]
    · simp only [Surroundings.onThreads, level.world]
      exact waited

theorem leaf_corresponds (surroundings : Surroundings World Work) (bound : Nat)
    (place : Whereabouts World) (name : String) (immediate handed : Bool) (work : Work) :
    Corresponds Eq place.Level (Behaviour.leaf surroundings work place.pinned)
      ((threaded surroundings place.runtime bound).leaf name immediate work handed) := by
  intro x y c d same level
  cases same
  change (Behaviour.leaf surroundings work place.pinned x c).1.Matches Eq
      (Behaviour.leaf (surroundings.onThreads place.runtime) work d.world.1.isPinned x d).1 ∧
    place.Level (Behaviour.leaf surroundings work place.pinned x c).2
      (Behaviour.leaf (surroundings.onThreads place.runtime) work d.world.1.isPinned x d).2
  have waited := level.afterWait (surroundings.perform work place.pinned x c.world).2
  simp only [Behaviour.leaf, Surroundings.onThreads, level.pinned, level.world]
  generalize (surroundings.perform work place.pinned x c.world).1 = after
  cases after with
  | ok after => exact ⟨.finished rfl, waited.note _⟩
  | error panic => exact ⟨.panicked panic, waited.note _⟩

/-! ### Pinning -/

/-- The place of pinned work that the runtime lends a thread for. -/
def lent (place : Whereabouts World) (thread : ThreadId) : Whereabouts World :=
  { place with
    flagged := Function.update place.flagged thread true
    pinned := true
    held := true
    thread := thread
    steady := fun _ => rfl
    rested := fun unpinned => by simp at unpinned }

theorem Level.lent (level : place.Level c d) :
    (place.lent (place.runtime.lend c.world)).Level c
      { d with
        world := (d.world.1.lent (place.runtime.lend d.world.2), d.world.2) } where
  world := level.world
  journal := level.journal
  flagged := by
    simp only [Threads.lent, Whereabouts.lent, level.flagged, level.world]
  held := rfl
  thread _ := by
    simp only [Threads.lent, Whereabouts.lent, level.world]
  pinned := by simp [Threads.lent, Threads.isPinned, Whereabouts.lent]

/-- **Whatever pinned work did, the flags are then as they were.** -/
theorem Level.flagged_returned {thread : ThreadId} (down : place.flagged thread = false)
    (caller : Threads) (level : (place.lent thread).Level c d) :
    (d.world.1.returned caller).flagged = place.flagged := by
  have there : d.world.1.current = thread := level.thread rfl
  rw [Threads.returned, level.flagged, there]
  simp only [Whereabouts.lent, Function.update_idem]
  rw [← down, Function.update_eq_self]

theorem Level.returned {thread : ThreadId} (down : place.flagged thread = false)
    {before : Course World Work} {start : Course (Threads × World) Work}
    (left : place.Level before start) (level : (place.lent thread).Level c d) :
    place.Level c { d with world := (d.world.1.returned start.world.1, d.world.2) } where
  world := level.world
  journal := level.journal
  flagged := level.flagged_returned down start.world.1
  held := left.held
  thread := left.thread
  pinned := by
    rw [← left.pinned, Threads.isPinned, Threads.isPinned, level.flagged_returned down,
      left.flagged]
    rfl

/-- Pinned work of an unpinned caller runs where a thread is lent for it, and hands a panic back as
a failure. -/
theorem pin_corresponds {run : Behaviour World Work} {runOn : Threaded World Work}
    (unpinned : place.pinned = false)
    (inside : ∀ world,
      Corresponds Eq (place.lent (place.runtime.lend world)).Level (run true) runOn) :
    Corresponds Eq place.Level (Behaviour.pinnedApart run) (Threaded.pin place.runtime runOn) := by
  intro x y c d same level
  cases same
  have ran := inside c.world (rfl : x = x) level.lent
  have down : place.flagged (place.runtime.lend c.world) = false :=
    (place.rested unpinned c.world).1
  have notPinned : d.world.1.isPinned = false := level.pinned.trans unpinned
  simp only [Behaviour.pinnedApart, Threaded.pin, notPinned, Bool.false_eq_true, if_false]
  generalize run true x c = ended₁ at ran
  generalize runOn x { d with
    world := (d.world.1.lent (place.runtime.lend d.world.2), d.world.2) } = ended₂ at ran
  obtain ⟨fate₁, later₁⟩ := ended₁
  obtain ⟨fate₂, later₂⟩ := ended₂
  obtain ⟨fates, there⟩ := ran
  change (place.lent (place.runtime.lend c.world)).Level later₁ later₂ at there
  have back := (Level.returned down level there).afterWait later₁.world
  simp only [there.world]
  cases fates with
  | finished same => exact ⟨.finished same, back⟩
  | panicked panic => exact ⟨.finished rfl, back⟩
  | unfinished => exact ⟨.unfinished, back⟩

/-! ### Trees -/

theorem guard_corresponds (surroundings : Surroundings World Work) (bound : Nat)
    {region : Step Work} {handler : Handler (Step Work)} (handed : Bool)
    (inside : ∀ place : Whereabouts World, Corresponds Eq place.Level
      (region.run surroundings bound place.pinned)
      (region.fold (threaded surroundings place.runtime bound) handed))
    (paths : handler.PathsHave fun path => ∀ place : Whereabouts World, Corresponds Eq place.Level
      (path.run surroundings bound place.pinned)
      (path.fold (threaded surroundings place.runtime bound) handed))
    (place : Whereabouts World) :
    Corresponds Eq place.Level
      ((Step.guard region handler).run surroundings bound place.pinned)
      ((Step.guard region handler).fold (threaded surroundings place.runtime bound) handed) := by
  have runs (place : Whereabouts World) := Behaviour.guarded_corresponds Indistinct.eq
    (lockstep surroundings place) bound (inside place)
    (paths.imp fun path corresponds => corresponds place)
  intro x y c d same level
  cases same
  change (Behaviour.guard surroundings bound _ _ place.pinned x c).1.Matches Eq
      ((threaded surroundings place.runtime bound).guard _ _ handed x d).1 ∧
    place.Level (Behaviour.guard surroundings bound _ _ place.pinned x c).2
      ((threaded surroundings place.runtime bound).guard _ _ handed x d).2
  simp only [Behaviour.guard, threaded, level.pinned]
  split
  · exact runs place rfl level
  · next pins =>
      have unpinned : place.pinned = false := by
        simp only [Bool.or_eq_true, not_or, Bool.not_eq_true] at pins
        exact pins.2
      exact pin_corresponds unpinned (fun world => runs (place.lent _)) rfl level

end Whereabouts

/-- **Looking the flag up is having it handed down.** On threads a step does what it does when it is
told whether it is pinned, and leaves the flags as they were. -/
theorem Step.runOn_corresponds (surroundings : Surroundings World Work) (bound : Nat)
    (place : Whereabouts World) (step : Step Work) :
    Corresponds Eq place.Level (step.run surroundings bound place.pinned)
      (step.runOn surroundings place.runtime bound) := by
  have inherited : Step.Inherited fun step : Step Work => ∀ place : Whereabouts World,
      Corresponds Eq place.Level (step.run surroundings bound place.pinned)
        (step.fold (threaded surroundings place.runtime bound) false) :=
    { leaf := fun name immediate work place =>
        Whereabouts.leaf_corresponds surroundings bound place name immediate false work
      pipeline := fun name steps each place => by
        rw [Step.run_pipeline, Step.fold_pipeline]
        exact Behaviour.sequence_corresponds Indistinct.eq fun step listed => each step listed place
      guard := fun region handler inside paths place =>
        Whereabouts.guard_corresponds surroundings bound false inside paths place }
  exact inherited.holds step place

namespace Delivery

theorem runRootOn_corresponds (surroundings : Surroundings World Work) (bound : Nat)
    (place : Whereabouts World) (root : Step Work) :
    Corresponds Eq place.Level (runRoot surroundings bound root place.pinned)
      (runRootOn surroundings place.runtime bound root) := by
  intro x y c d same level
  cases same
  let run : Behaviour World Work := fun pinned y course =>
    (contain root x (root.run surroundings bound pinned y course).1,
      (root.run surroundings bound pinned y course).2)
  let runOn : Threaded World Work := fun y course =>
    (contain root x (root.runOn surroundings place.runtime bound y course).1,
      (root.runOn surroundings place.runtime bound y course).2)
  have contained (other : Whereabouts World) (here : other.runtime = place.runtime) :
      Corresponds Eq other.Level (run other.pinned) runOn := by
    intro y z c d same level
    have ran := Step.runOn_corresponds surroundings bound other root same level
    rw [here] at ran
    refine ⟨?_, ran.2⟩
    change (contain root x _).Matches Eq (contain root x _)
    rw [ran.1.eq]
    exact Fate.Matches.of_eq _
  change (if x.transacted && !place.pinned then Behaviour.pinnedApart run x c
      else run place.pinned x c).1.Matches Eq
      (if x.transacted then Threaded.pin place.runtime runOn x d else runOn x d).1 ∧
    place.Level (if x.transacted && !place.pinned then Behaviour.pinnedApart run x c
      else run place.pinned x c).2
      (if x.transacted then Threaded.pin place.runtime runOn x d else runOn x d).2
  cases transacted : x.transacted with
  | false =>
      simp only [Bool.false_and, Bool.false_eq_true, if_false]
      exact contained place rfl rfl level
  | true =>
      cases pinned : place.pinned with
      | false =>
          simp only [Bool.not_false, Bool.and_true, if_true]
          have inside := fun world =>
            contained (place.lent (place.runtime.lend world)) rfl
          exact Whereabouts.pin_corresponds pinned inside rfl level
      | true =>
          have inPlace : Threaded.pin place.runtime runOn x d = runOn x d :=
            if_pos (level.pinned.trans pinned)
          simp only [Bool.not_true, Bool.and_false, Bool.false_eq_true, if_false, if_true, inPlace]
          rw [← pinned]
          exact contained place rfl rfl level

/-- **A delivery that finds its way by the threads is the one that is told.** -/
theorem deliverOn_corresponds (surroundings : Surroundings World Work) (bound : Nat)
    (place : Whereabouts World) (root : Step Work) :
    Corresponds Eq place.Level (deliver surroundings bound root place.pinned)
      (deliverOn surroundings place.runtime bound root) := by
  intro x y c d same level
  cases same
  have ran := runRootOn_corresponds surroundings bound place root
    (rfl : x.beginDelivery = x.beginDelivery) level
  simp only [deliver, deliverOn, level.world]
  generalize runRoot surroundings bound root place.pinned x.beginDelivery c = ended₁ at ran
  generalize runRootOn surroundings place.runtime bound root x.beginDelivery d = ended₂ at ran
  obtain ⟨fate₁, later₁⟩ := ended₁
  obtain ⟨fate₂, later₂⟩ := ended₂
  obtain ⟨fates, later⟩ := ran
  change place.Level later₁ later₂ at later
  cases fates with
  | finished same =>
      cases same
      simp only [later.world]
      exact ⟨.finished rfl, later.note _⟩
  | panicked panic => exact ⟨.panicked panic, later⟩
  | unfinished => exact ⟨.unfinished, later⟩

end Delivery

end Mediation
