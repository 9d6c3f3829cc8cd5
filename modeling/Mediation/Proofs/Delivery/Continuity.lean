import Mediation.Proofs.Delivery.Agreement
import Mediation.Proofs.Delivery.Threads

/-!
# What leaves find of their thread

A transacted delivery pins its root, and a guard that is entered directly pins its run. As long as
leaves leave the mark of a transaction alone, nothing inside has to pin once more, so a run finds
throughout what it was told at its start (`run_found`): each leaf, each time that it runs, behind
whatever wait, in nested guards and on handled paths. On threads, where the flag is looked up, that
is what the leaves find there, and the flags are afterwards as they were, however the run has ended
(`Delivery.threads_continuous`).
-/

set_option autoImplicit false

namespace Mediation

variable {World Work : Type}

/-! ## What leaves find -/

/-- A work that leaves the mark of a transaction as it is. -/
def Surroundings.KeepsMark (surroundings : Surroundings World Work) (work : Work) : Prop :=
  ∀ {pinned x world after later}, surroundings.perform work pinned x world = (.ok after, later) →
    after.transacted = x.transacted

/-- If a leaf ran, it was pinned or not as is said. -/
def Note.Found (pinned : Bool) : Note Work → Prop
  | performed _ found _ _ => found = pinned
  | _ => True

/-- Every leaf of the journal was pinned or not as is said. -/
def Course.Found (pinned : Bool) (course : Course World Work) : Prop :=
  ∀ note ∈ course.journal, note.Found pinned

theorem Course.Found.note {pinned : Bool} {course : Course World Work} (found : course.Found pinned)
    {entry : Note Work} (here : entry.Found pinned) : (course.note entry).Found pinned := by
  intro note member
  rcases List.mem_cons.mp member with rfl | earlier
  · exact here
  · exact found note earlier

section Found

variable {surroundings : Surroundings World Work} {works : Work → Prop} {mark pinned : Bool}

/-- The same exchange, with the mark as is said. -/
def Exchange.Marked (mark : Bool) (x y : Exchange) : Prop := x = y ∧ x.transacted = mark

theorem Exchange.indistinct_marked (mark : Bool) : Indistinct (Exchange.Marked mark) where
  id marked := congrArg Exchange.id marked.1
  failure marked := congrArg Exchange.failure marked.1
  redelivery marked := congrArg Exchange.redelivery marked.1
  update marked failure redelivery := by
    obtain ⟨rfl, marked⟩ := marked
    exact ⟨rfl, marked⟩

/-- The same course, with leaves pinned or not as is said. -/
def Course.SameFound (pinned : Bool) (c d : Course World Work) : Prop := c = d ∧ c.Found pinned

theorem lockstep_found (surroundings : Surroundings World Work) (mark pinned : Bool) :
    Lockstep surroundings surroundings (Exchange.Marked mark) (Course.SameFound pinned) where
  enter {c d x y} handler same marked := by
    obtain ⟨rfl, found⟩ := same
    obtain ⟨rfl, _⟩ := marked
    have entered : (c.change (surroundings.enter handler)).Found pinned := found
    exact ⟨rfl, entered.note trivial⟩
  guarded handler event same := by
    obtain ⟨rfl, found⟩ := same
    exact ⟨rfl, found.note trivial⟩
  signalled handler same := by rw [same.1]
  scale same := by rw [same.1]
  pause handler time same := by
    obtain ⟨rfl, found⟩ := same
    exact ⟨rfl, rfl, found⟩
  leave {c d} handler same := by
    obtain ⟨rfl, found⟩ := same
    have left : (c.change (surroundings.leave handler)).Found pinned := found
    exact ⟨rfl, left.note trivial⟩

theorem leaf_found {work : Work} (keeps : surroundings.KeepsMark work) (bound : Nat)
    (name : String) (immediate : Bool) :
    Corresponds (Exchange.Marked mark) (Course.SameFound pinned)
      ((Step.leaf name immediate work).run surroundings bound pinned)
      ((Step.leaf name immediate work).run surroundings bound pinned) := by
  intro x y c d marked same
  obtain ⟨rfl, marked⟩ := marked
  obtain ⟨rfl, found⟩ := same
  change (Behaviour.leaf surroundings work pinned x c).1.Matches _
      (Behaviour.leaf surroundings work pinned x c).1 ∧
    Course.SameFound pinned (Behaviour.leaf surroundings work pinned x c).2
      (Behaviour.leaf surroundings work pinned x c).2
  cases performed : surroundings.perform work pinned x c.world with
  | mk after world =>
      have between : ({ c with world } : Course World Work).Found pinned := found
      simp only [Behaviour.leaf, performed]
      cases after with
      | ok after => exact ⟨.finished ⟨rfl, (keeps performed).trans marked⟩, rfl, between.note rfl⟩
      | error panic => exact ⟨.panicked panic, rfl, between.note rfl⟩

/-- **A run finds what it is told**, unless a guard has to pin. -/
theorem run_found (keeps : ∀ work, works work → surroundings.KeepsMark work) (bound : Nat)
    (pins : mark = true → pinned = true) (step : Step Work) (every : step.EveryWork works) :
    Corresponds (Exchange.Marked mark) (Course.SameFound pinned)
      (step.run surroundings bound pinned) (step.run surroundings bound pinned) := by
  have indistinct := Exchange.indistinct_marked mark
  have inherited : Step.Inherited fun step : Step Work => step.EveryWork works →
      Corresponds (Exchange.Marked mark) (Course.SameFound pinned)
        (step.run surroundings bound pinned) (step.run surroundings bound pinned) :=
    { leaf := fun name immediate work kind => leaf_found (keeps work kind) bound name immediate
      pipeline := fun name steps each every => by
        rw [Step.run_pipeline]
        refine Behaviour.sequence_corresponds indistinct fun step listed => ?_
        exact each step listed (Step.everyWork_pipeline.mp every step listed)
      guard := fun region handler inside paths every => by
        obtain ⟨here, there⟩ := Step.everyWork_guard.mp every
        have runs := Behaviour.guarded_corresponds indistinct
          (lockstep_found surroundings mark pinned) bound (inside here)
          ((there.and paths).imp fun _ both => both.2 both.1)
        intro x y c d marked same
        have stays : (!x.transacted || pinned) = true := by
          rw [marked.2]
          cases mark with
          | false => rfl
          | true => exact pins rfl
        have runs := runs marked same
        obtain ⟨rfl, _⟩ := marked
        obtain ⟨rfl, _⟩ := same
        change (Behaviour.guard surroundings bound _ _ pinned x c).1.Matches _
            (Behaviour.guard surroundings bound _ _ pinned x c).1 ∧
          Course.SameFound pinned (Behaviour.guard surroundings bound _ _ pinned x c).2
            (Behaviour.guard surroundings bound _ _ pinned x c).2
        simp only [Behaviour.guard, stays, if_true]
        exact runs }
  exact inherited.holds step every

/-- In a guard that is entered directly, leaves are pinned if the caller is or the exchange is
transacted. -/
theorem guard_found (keeps : ∀ work, works work → surroundings.KeepsMark work) (bound : Nat)
    (pinned : Bool) {region : Step Work} {handler : Handler (Step Work)}
    (every : (Step.guard region handler).EveryWork works) (x : Exchange) (world : World) :
    ((Step.guard region handler).run surroundings bound pinned x (Course.start world)).2.Found
      (pinned || x.transacted) := by
  have started (found : Bool) :
      Course.SameFound found (Course.start world : Course World Work) (Course.start world) :=
    ⟨rfl, fun note member => by simp [Course.start] at member⟩
  have found (told : Bool) (pins : x.transacted = true → told = true) :=
    (run_found keeps bound pins (Step.guard region handler) every ⟨rfl, rfl⟩ (started told)).2.2
  cases transacted : x.transacted with
  | false =>
      rw [Bool.or_false]
      exact found pinned fun marked => absurd (transacted.symm.trans marked) Bool.false_ne_true
  | true =>
      rw [Bool.or_true]
      cases pinned with
      | true => exact found true fun _ => rfl
      | false =>
          -- The guard pins: its run is the one of a guard that is pinned already.
          have apart := found true fun _ => rfl
          have inside : (Step.guard region handler).run surroundings bound true x
              (Course.start world) = Behaviour.guarded surroundings bound
                (Step.foldHandler (behaviours surroundings bound) handler)
                (region.run surroundings bound) true x (Course.start world) := by
            change Behaviour.guard _ _ _ _ true x _ = _
            simp only [Behaviour.guard, Bool.or_true, if_true]
            rfl
          rw [inside] at apart
          have outside : (Step.guard region handler).run surroundings bound false x
              (Course.start world) = Behaviour.pinnedApart (Behaviour.guarded surroundings bound
                (Step.foldHandler (behaviours surroundings bound) handler)
                (region.run surroundings bound)) x (Course.start world) := by
            change Behaviour.guard _ _ _ _ false x _ = _
            simp only [Behaviour.guard, transacted, Bool.not_true, Bool.or_false,
              Bool.false_eq_true, if_false]
            rfl
          rw [outside, Behaviour.pinnedApart]
          split
          · next ran => rwa [ran] at apart
          · exact apart

/-- In a delivery leaves are pinned if the caller is or the exchange is transacted. -/
theorem deliver_found (keeps : ∀ work, works work → surroundings.KeepsMark work) (bound : Nat)
    (pinned : Bool) {root : Step Work} (every : root.EveryWork works) (x : Exchange)
    (world : World) :
    (Delivery.deliver surroundings bound root pinned x (Course.start world)).2.Found
      (pinned || x.transacted) := by
  have pins : x.transacted = true → (pinned || x.transacted) = true := by
    intro marked
    rw [marked, Bool.or_true]
  have started : Course.SameFound (pinned || x.transacted)
      (Course.start world : Course World Work) (Course.start world) :=
    ⟨rfl, fun note member => by simp [Course.start] at member⟩
  have marked : Exchange.Marked x.transacted x.beginDelivery x.beginDelivery := ⟨rfl, rfl⟩
  have found := (run_found keeps bound pins root every marked started).2.2
  cases ran : root.run surroundings bound (pinned || x.transacted) x.beginDelivery
      (Course.start world) with
  | mk fate later =>
      rw [ran] at found
      rw [Delivery.deliver_closing ran]
      intro note member
      rcases List.mem_append.mp member with closes | earlier
      · cases settled : Delivery.settle root pinned x fate with
        | finished after =>
            rw [settled] at closes
            rw [List.mem_singleton.mp closes]
            trivial
        | panicked panic => simp [settled, Delivery.closing] at closes
        | unfinished => simp [settled, Delivery.closing] at closes
      · exact found note earlier

end Found

/-! ## Continuity -/

namespace Delivery

/-- **What a run leaves of the threads and shows of its leaves.** -/
structure Continuous (before : Threads) (pinned : Bool)
    (ended : Fate × Course (Threads × World) Work) : Prop where
  /-- Every leaf that ran has found the flag up, or every one has found it down. -/
  leaves : ∀ {work found entered after}, .performed work found entered after ∈ ended.2.journal →
    found = pinned
  /-- However the run has ended, every flag is as it was. -/
  flagged : ended.2.world.1.flagged = before.flagged
  /-- The caller finds the flag as it was. -/
  caller : ended.2.world.1.isPinned = before.isPinned

theorem continuous_of_level {place : Whereabouts World} {before : Threads} {pinned : Bool}
    {told : Fate × Course World Work} {looked : Fate × Course (Threads × World) Work}
    (flagged : place.flagged = before.flagged) (caller : place.pinned = before.isPinned)
    (level : place.Level told.2 looked.2) (found : told.2.Found pinned) :
    Continuous before pinned looked where
  leaves {work was entered after} member := by
    rw [level.journal] at member
    exact found _ member
  flagged := level.flagged.trans flagged
  caller := level.pinned.trans caller

/-- **Thread continuity.** Whatever the tree of leaves that leave the mark of a transaction alone,
the surroundings, the runtime and the exchange: in a delivery, and in a guard that is entered
directly, every leaf that runs finds the flag up if the exchange is transacted or the caller is
pinned, and down otherwise; and however it ends, all flags are as they were, the caller's too. -/
theorem threads_continuous {surroundings : Surroundings World Work} {works : Work → Prop}
    (keeps : ∀ work, works work → surroundings.KeepsMark work) (bound : Nat)
    (runtime : Runtime World) (threads : Threads)
    (steady : threads.isPinned = true → threads.held = true)
    (rested : threads.isPinned = false → runtime.Rested threads.flagged) (x : Exchange)
    (world : World) :
    (∀ root : Step Work, root.EveryWork works →
      Continuous threads (threads.isPinned || x.transacted)
        (deliverOn surroundings runtime bound root x (Course.start (threads, world)))) ∧
    ∀ (region : Step Work) (handler : Handler (Step Work)),
      (Step.guard region handler).EveryWork works →
      Continuous threads (threads.isPinned || x.transacted)
        ((Step.guard region handler).runOn surroundings runtime bound x
          (Course.start (threads, world))) := by
  let place : Whereabouts World :=
    { runtime, flagged := threads.flagged, pinned := threads.isPinned, held := threads.held
      thread := threads.current, steady, rested }
  have started : place.Level (Course.start world : Course World Work)
      (Course.start (threads, world)) :=
    { world := rfl, journal := rfl, flagged := rfl, held := rfl, thread := fun _ => rfl
      pinned := rfl }
  refine ⟨fun root every => ?_, fun region handler every => ?_⟩
  · have corresponds := deliverOn_corresponds surroundings bound place root (rfl : x = x) started
    exact continuous_of_level rfl rfl corresponds.2
      (deliver_found keeps bound threads.isPinned every x world)
  · have corresponds := Step.runOn_corresponds surroundings bound place (.guard region handler)
      (rfl : x = x) started
    exact continuous_of_level rfl rfl corresponds.2
      (guard_found keeps bound threads.isPinned every x world)

/-- A runtime that goes on somewhere else after every leaf, and lends yet other threads. -/
def roaming : Runtime Nat := { lend := fun runs => 100 + runs, resume := fun runs => runs }

/-- Thread 0, with no flag up anywhere. -/
def unflagged : Threads := { flagged := fun _ => false, current := 0, held := false }

theorem stumbling_keepsMark (work : Unit) : stumbling.KeepsMark work := by
  intro pinned x runs after later performed
  match runs with
  | 0 =>
      obtain ⟨same, _⟩ := Prod.mk.inj performed
      rw [← Except.ok.inj same]
      rfl
  | 1 =>
      obtain ⟨same, _⟩ := Prod.mk.inj performed
      rw [← Except.ok.inj same]
  | _ + 2 => nomatch performed

/-- A leaf that fails, one that passes and one that panics: pinned in a transaction, in a delivery
and in a guard alone, and not pinned outside of one. -/
theorem threads_continuous_roaming :
    (∀ work, stumbling.KeepsMark work) ∧ (twoGuards.EveryWork fun _ => True) ∧
      unflagged.isPinned = false ∧ roaming.Rested unflagged.flagged ∧
      Continuous unflagged true (deliverOn stumbling roaming 3 twoGuards
        ((default : Exchange).withTransacted true) (Course.start (unflagged, 0))) ∧
      Continuous unflagged false (deliverOn stumbling roaming 3 twoGuards
        ((default : Exchange).withTransacted false) (Course.start (unflagged, 0))) ∧
      Continuous unflagged true (twoGuards.runOn stumbling roaming 3
        ((default : Exchange).withTransacted true) (Course.start (unflagged, 0))) := by
  have every : twoGuards.EveryWork fun _ => True :=
    Step.everyWork_of_forall (fun _ => trivial) twoGuards
  have rested : roaming.Rested unflagged.flagged := fun _ => ⟨rfl, rfl⟩
  have keeps : ∀ work, True → stumbling.KeepsMark work := fun work _ => stumbling_keepsMark work
  have continuous (transacted : Bool) := threads_continuous keeps 3 roaming unflagged
    (fun pinned => absurd pinned Bool.false_ne_true) (fun _ => rested)
    ((default : Exchange).withTransacted transacted) 0
  exact ⟨stumbling_keepsMark, every, rfl, rested, (continuous true).1 _ every,
    (continuous false).1 _ every, (continuous true).2 _ _ every⟩

end Delivery

end Mediation
