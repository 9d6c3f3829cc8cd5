import Mediation.Proofs.Delivery.Chronicles
import Mediation.Proofs.Delivery.Correspondence
import Mediation.Proofs.Station.Duty

/-!
# Guarded runs played back

A guarded run of a duty goes on in pieces, with events of others in between. Here it is one run of a
guard again: in surroundings that answer as the run was answered, with a region and handled paths
that hand back what it was handed back, `Behaviour.guarded` ends as the run has ended and tells what
it has told (`Duty.played_back`).
-/

set_option autoImplicit false

namespace Mediation

variable {Work : Type}

/-! ## Recordings -/

/-- Whether a run that met this breaks off instead of running its region again. -/
def Handing.breaksOff (handing : Handing) (spacing : Spacing) : Bool :=
  handing.signal || !(spacing.time (handing.scale.getD default)).isZero && handing.interrupted

/-- What a guarded run is to meet, and what it met last. -/
structure Recording where
  last : Handing
  coming : List Handing

/-- Surroundings that answer as recorded. -/
def replaying : Surroundings Recording Work where
  perform := fun _ _ x world => (.ok x, world)
  enter := fun _ world => world
  leave := fun _ world => world
  signalled := fun _ world => world.last.signal
  scale := fun world => world.last.scale.getD default
  pause := fun _ _ world => (world.last.interrupted, world)
  clock := fun _ => 0

/-- Hands back what is recorded next. -/
def playBack : Behaviour Recording Work := fun _ _ course =>
  match course.world.coming with
  | [] => (.unfinished, course)
  | handing :: coming =>
    (Fate.ofLeaf handing.handed, { course with world := { last := handing, coming } })

/-- Every step hands back what is recorded next. -/
def playing : Step.Algebra Work (Behaviour Recording Work) :=
  { leaf := fun _ _ _ => playBack, pipeline := fun _ _ => playBack, guard := fun _ _ => playBack }

theorem fold_playing (step : Step Work) : step.fold playing = playBack := by
  cases step <;> rfl

section Rounds

variable (handler : Handler (Step Work)) (entry : Attempts) (pinned : Bool)

/-- The rounds of a guard that are played back. -/
def replay (fuel : Nat) (x : Exchange) (course : Course Recording Work) :
    Fate × Course Recording Work :=
  Behaviour.rounds replaying (Step.foldHandler playing handler) playBack entry pinned fuel x course

/-- What is played back of a handled path and of what follows it. -/
def replayPath (x : Exchange) (course : Course Recording Work) : Fate × Course Recording Work :=
  match playBack pinned x course with
  | (.finished after, course) =>
    let (x, event) := Guard.afterPath entry after
    (.finished x, course.noteEvent handler.id event)
  | stopped => stopped

variable {handler entry pinned} {fuel : Nat} {x after : Exchange} {handing : Handing}
  {coming : List Handing} {journal : List (Note Work)} {last : Handing}

theorem id_playing : (Step.foldHandler playing handler).id = handler.id := by
  rw [Step.foldHandler_eq]

/-- What is played back of a delay takes no time and leaves the recording as it is. -/
theorem delay_replaying (handler : HandlerId) (spacing : Spacing)
    (course : Course Recording Work) :
    Behaviour.delay replaying handler spacing course =
      (course.world.last.breaksOff spacing, course) := by
  cases signal : course.world.last.signal with
  | true => simp [Behaviour.delay, replaying, Handing.breaksOff, signal]
  | false =>
      cases zero : (spacing.time (course.world.last.scale.getD default)).isZero <;>
        simp [Behaviour.delay, replaying, Handing.breaksOff, signal, zero]

theorem last_noteEvent (event : Option Guard.Event) :
    ((⟨⟨handing, coming⟩, journal⟩ : Course Recording Work).noteEvent handler.id event).world.last =
      handing := by
  cases event <;> rfl

/-- One round that is played back. -/
theorem replay_succ (handed : handing.handed = .ok after) :
    replay handler entry pinned (fuel + 1) x ⟨⟨last, handing :: coming⟩, journal⟩ =
      (let (next, event) := Guard.afterRegion handler entry after
       let course :=
         (⟨⟨handing, coming⟩, journal⟩ : Course Recording Work).noteEvent handler.id event
       match next with
       | .leave x => (.finished x, course)
       | .follow x _ => replayPath handler entry pinned x course
       | .redeliver x spacing =>
         if handing.breaksOff spacing then
           let (x, event) := Guard.interrupt entry x
           (.finished x, course.noteEvent handler.id event)
         else replay handler entry pinned fuel x.withoutFailure course) := by
  have played : (playBack pinned x ⟨⟨last, handing :: coming⟩, journal⟩ :
      Fate × Course Recording Work) = (.finished after, ⟨⟨handing, coming⟩, journal⟩) := by
    simp [playBack, handed, Fate.ofLeaf]
  rw [replay, Behaviour.rounds, played]
  simp only [Guard.afterRegion_foldHandler, id_playing]
  cases decided : Guard.afterRegion handler entry after with
  | mk next event =>
      cases next with
      | leave y => rfl
      | follow y path =>
          simp only [Guard.Next.map, fold_playing, replayPath]
          generalize playBack pinned y _ = ended
          obtain ⟨fate, course⟩ := ended
          cases fate <;> rfl
      | redeliver y spacing =>
          simp only [Guard.Next.map, delay_replaying, last_noteEvent]
          rfl

/-- A region that panics, played back. -/
theorem replay_panicked {panic : Panic} (handed : handing.handed = .error panic) :
    replay handler entry pinned (fuel + 1) x ⟨⟨last, handing :: coming⟩, journal⟩ =
      (.panicked panic, ⟨⟨handing, coming⟩, journal⟩) := by
  simp [replay, Behaviour.rounds, playBack, handed, Fate.ofLeaf]

/-- A handled path, played back. -/
theorem replayPath_cons :
    replayPath handler entry pinned x ⟨⟨last, handing :: coming⟩, journal⟩ =
      match handing.handed with
      | .ok after =>
        (.finished (Guard.afterPath entry after).1,
          (⟨⟨handing, coming⟩, journal⟩ : Course Recording Work).noteEvent handler.id
            (Guard.afterPath entry after).2)
      | .error panic => (.panicked panic, ⟨⟨handing, coming⟩, journal⟩) := by
  cases handed : handing.handed <;> simp [replayPath, playBack, handed, Fate.ofLeaf]

end Rounds

/-! ## Runs of a duty -/

namespace Stint

variable {handler : Handler (Step Work)} {stint : Stint (Step Work)} {signal : Bool}
  {now : Instant} {scale : Scale} {x after : Exchange} {handing : Handing}

/-- The course behind what a run has met and told. -/
def course (stint : Stint (Step Work)) (handler : HandlerId) (last : Handing)
    (coming : List Handing) (journal : List (Note Work)) : Course Recording Work :=
  ⟨⟨stint.met.headD last, coming⟩, stint.told.map (.guarded handler) ++ journal⟩

/-- What is played back of a run, and of what it might meet then. -/
def played (handler : Handler (Step Work)) (stint : Stint (Step Work)) (pinned : Bool)
    (fuel : Nat) (last : Handing) (coming : List Handing) (journal : List (Note Work)) :
    Fate × Course Recording Work :=
  replay handler stint.entry pinned (fuel + stint.begun) stint.entered
    ⟨⟨last, stint.met.reverse ++ coming⟩, journal⟩

/-- Played back as far as the run has come, the region of a guard begins. -/
def Begins (handler : Handler (Step Work)) (stint : Stint (Step Work)) : Prop :=
  ∀ pinned fuel last coming journal, ∃ x, stint.played handler pinned fuel last coming journal =
    replay handler stint.entry pinned (fuel + 1) x (stint.course handler.id last coming journal)

/-- Played back as far as the run has come, a guard stands where the run stands. -/
def Plays (handler : Handler (Step Work)) (stint : Stint (Step Work)) : Prop :=
  match stint.stand with
  | .region _ => stint.Begins handler
  | .delay handed x _ => ∃ (before : Stint (Step Work)) (event : Option Guard.Event)
      (spacing : Spacing), before.Begins handler ∧ stint = before.tell event ∧
        (spacing.time (stint.scale.getD default)).isZero = false ∧
          Guard.afterRegion handler stint.entry handed = (.redeliver x spacing, event)
  | .path _ x => ∀ pinned fuel last coming journal,
      stint.played handler pinned fuel last coming journal =
        replayPath handler stint.entry pinned x (stint.course handler.id last coming journal)
  | .left (some outcome) => ∀ pinned fuel last coming journal,
      stint.played handler pinned fuel last coming journal =
        (Fate.ofLeaf outcome, stint.course handler.id last coming journal)
  | .left none => True

theorem plays_enter (x : Exchange) : (enter x).Plays handler :=
  fun _ _ _ _ _ => ⟨x, rfl⟩

/-- One thing more is met. -/
theorem played_meet (handing : Handing) (pinned : Bool) (fuel : Nat) (last : Handing)
    (coming : List Handing) (journal : List (Note Work)) :
    (stint.meet handing).played handler pinned fuel last coming journal =
      stint.played handler pinned fuel last (handing :: coming) journal := by
  have split : (stint.meet handing).met.reverse ++ coming =
      stint.met.reverse ++ handing :: coming := by
    simp [meet]
  exact congrArg (fun met => replay handler stint.entry pinned (fuel + stint.begun) stint.entered
    ⟨⟨last, met⟩, journal⟩) split

/-- The next round, played back. -/
theorem Begins.round (begins : stint.Begins handler) (handing : Handing)
    (handed : handing.handed = .ok after) (pinned : Bool) (fuel : Nat) (last : Handing)
    (coming : List Handing) (journal : List (Note Work)) :
    (stint.meet handing).played handler pinned fuel last coming journal =
      (let (next, event) := Guard.afterRegion handler stint.entry after
       let course := ((stint.tell event).meet handing).course handler.id last coming journal
       match next with
       | .leave x => (.finished x, course)
       | .follow x _ => replayPath handler stint.entry pinned x course
       | .redeliver x spacing =>
         if handing.breaksOff spacing then
           let (x, event) := Guard.interrupt stint.entry x
           (.finished x, course.noteEvent handler.id event)
         else replay handler stint.entry pinned fuel x.withoutFailure course) := by
  obtain ⟨x, reaches⟩ := begins pinned fuel last (handing :: coming) journal
  rw [played_meet, reaches, course, replay_succ handed]
  cases Guard.afterRegion handler stint.entry after with
  | mk next event => cases event <;> rfl

variable {spacing : Spacing} {event : Option Guard.Event}

/-- The region begins again, played back. -/
theorem Begins.again (begins : stint.Begins handler) (handed : handing.handed = .ok after)
    (decided : Guard.afterRegion handler stint.entry after = (.redeliver x spacing, event))
    (goesOn : handing.breaksOff spacing = false) :
    (((stint.tell event).meet handing).again x).Begins handler := by
  intro pinned fuel last coming journal
  have round := begins.round handing handed pinned (fuel + 1) last coming journal
  simp only [decided, goesOn] at round
  refine ⟨x.withoutFailure, ?_⟩
  have later : (((stint.tell event).meet handing).again x).played handler pinned fuel last coming
      journal = (stint.meet handing).played handler pinned (fuel + 1) last coming journal := by
    have more : fuel + (stint.begun + 1) = fuel + 1 + stint.begun := by omega
    exact congrArg (fun rounds => replay handler stint.entry pinned rounds stint.entered
      ⟨⟨last, (stint.meet handing).met.reverse ++ coming⟩, journal⟩) more
  rw [later, round]
  rfl

/-- The run breaks off, played back. -/
theorem Begins.breakOff (begins : stint.Begins handler) (handed : handing.handed = .ok after)
    (decided : Guard.afterRegion handler stint.entry after = (.redeliver x spacing, event))
    (interrupted : handing.breaksOff spacing = true) :
    (((stint.tell event).meet handing).breakOff x).Plays handler := by
  intro pinned fuel last coming journal
  have round := begins.round handing handed pinned fuel last coming journal
  simp only [decided, interrupted, if_true] at round
  exact round

/-- A decision is played back. -/
theorem Begins.decide (begins : stint.Begins handler) :
    (stint.decide handler signal now scale after).Plays handler := by
  have drawn : (stint.draw scale).Begins handler := begins
  have round := drawn.round ⟨.ok after, some scale, false, false⟩ rfl
  unfold Stint.decide
  cases decided : Guard.afterRegion handler stint.entry after with
  | mk next event =>
      simp only [entry_draw, decided] at round
      cases next with
      | leave y => exact round
      | follow y path => exact round
      | redeliver y spacing =>
          cases signal with
          | true => exact drawn.breakOff rfl decided rfl
          | false =>
              cases zero : (spacing.time scale).isZero with
              | true =>
                  simp only [zero]
                  exact drawn.again rfl decided (by simp [Handing.breaksOff])
              | false =>
                  simp only [zero]
                  exact ⟨{ stint.draw scale with
                      stand := .delay after y (now.wakeUp (spacing.time scale)) }, event, spacing,
                    begins, rfl, zero, decided⟩

/-- The end of a handled path is played back. -/
theorem plays_conclude (follows : ∀ pinned fuel last coming journal,
      stint.played handler pinned fuel last coming journal =
        replayPath handler stint.entry pinned x (stint.course handler.id last coming journal)) :
    (stint.conclude after).Plays handler := by
  unfold Stint.conclude
  cases decided : Guard.afterPath stint.entry after with
  | mk y event =>
      intro pinned fuel last coming journal
      have reaches :=
        follows pinned fuel last (⟨.ok after, stint.scale, false, false⟩ :: coming) journal
      rw [course, replayPath_cons] at reaches
      simp only [decided] at reaches
      refine ((played_meet _ pinned fuel last coming journal).trans reaches).trans ?_
      cases event <;> rfl

/-- What is handed back is played back. -/
theorem Plays.handBack (plays : stint.Plays handler) (handed : Except Panic Exchange) :
    (stint.handBack handler signal now scale handed).Plays handler := by
  unfold Stint.handBack
  cases stand : stint.stand with
  | delay _ _ _ => exact plays
  | left _ => exact plays
  | region x =>
      have begins : stint.Begins handler := by
        rw [Plays, stand] at plays
        exact plays
      cases handed with
      | ok after => exact begins.decide
      | error panic =>
          intro pinned fuel last coming journal
          obtain ⟨y, reaches⟩ :=
            begins pinned fuel last (⟨.error panic, stint.scale, false, false⟩ :: coming) journal
          rw [course, replay_panicked rfl] at reaches
          exact (played_meet _ pinned fuel last coming journal).trans reaches
  | path path x =>
      rw [Plays, stand] at plays
      cases handed with
      | ok after => exact plays_conclude plays
      | error panic =>
          intro pinned fuel last coming journal
          have reaches :=
            plays pinned fuel last (⟨.error panic, stint.scale, false, false⟩ :: coming) journal
          rw [course, replayPath_cons] at reaches
          exact (played_meet _ pinned fuel last coming journal).trans reaches

/-- A turn is played back. -/
theorem Plays.turn (plays : stint.Plays handler) (byTimer : Bool) :
    (stint.turn signal now byTimer).Plays handler := by
  unfold Stint.turn
  cases stand : stint.stand with
  | region _ => exact plays
  | path _ _ => exact plays
  | left _ => exact plays
  | delay handed x due =>
      have waits := plays
      rw [Plays, stand] at waits
      obtain ⟨before, event, spacing, begins, rfl, delayed, decided⟩ := waits
      simp only
      split
      · exact begins.again rfl decided (by simp [Handing.breaksOff])
      · split
        · exact begins.breakOff rfl decided (by simp [Handing.breaksOff, delayed])
        · exact plays

end Stint

namespace Duty

variable {handler : Handler (Step Work)} {choices : List Choice} {n : Nat}

/-- **Every guarded run of a duty is a run of a guard.** If it has left, then a guard whose region
and paths hand back what the run was handed back, and whose surroundings answer as the run was
answered, ends as the run has ended, and tells what it has told. -/
theorem played_back (handler : Handler (Step Work)) (choices : List Choice) (n : Nat)
    (stint : Stint (Step Work)) (outcome : Except Panic Exchange)
    (member : stint ∈ ((create handler).before choices n).stints)
    (left : stint.stand = .left (some outcome)) (pinned : Bool) (bound : Nat) (last : Handing)
    (enough : stint.begun ≤ bound) :
    ∃ final, Behaviour.guarded replaying bound (Step.foldHandler playing handler) playBack pinned
        stint.entered (Course.start ⟨last, stint.met.reverse⟩) = (Fate.ofLeaf outcome, final) ∧
      final.journal = .left handler.id ::
        (stint.told.map (.guarded handler.id) ++ [.entered handler.id stint.entered]) := by
  have played : stint.Plays handler :=
    stints_before Stint.plays_enter (fun _ _ _ _ handed plays => plays.handBack handed)
      (fun _ _ _ byTimer plays => plays.turn byTimer) (fun _ _ => trivial) n stint member
  rw [Stint.Plays, left] at played
  have ended := played pinned (bound - stint.begun) last [] [.entered handler.id stint.entered]
  have rounds : bound - stint.begun + stint.begun = bound := Nat.sub_add_cancel enough
  rw [Stint.played, rounds, List.append_nil] at ended
  have whole : Behaviour.guarded replaying bound (Step.foldHandler playing handler) playBack pinned
      stint.entered (Course.start ⟨last, stint.met.reverse⟩) =
        (let (fate, course) := replay handler stint.entry pinned bound stint.entered
          ⟨⟨last, stint.met.reverse⟩, [.entered handler.id stint.entered]⟩
         (fate, course.note (.left handler.id))) := by
    simp only [Behaviour.guarded, id_playing]
    rfl
  rw [whole, ended]
  exact ⟨_, rfl, rfl⟩

end Duty

end Mediation
