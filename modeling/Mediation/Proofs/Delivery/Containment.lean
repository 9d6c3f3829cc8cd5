import Mediation.Delivery.Basic
import Mediation.Proofs.Delivery.Tree

/-!
# Where panics end

The journal of a run says which leaf panicked. A panic ends every step that it comes from, up to the
delivery, unless a guard on the way had to pin its exchange: such a guard hands the exchange back as
it came, with a failure (`Behaviour.guard_holds`). So a run panics exactly if one of its leaves did,
as long as no guard pins on its own (`Traces`). A delivery contains what reaches it, with one gap:
a bare immediate root on its caller's thread panics before anything contains it
(`Delivery.panics_contained`).
-/

set_option autoImplicit false

namespace Mediation

/-! ## What a journal tells of panics -/

namespace Note

variable {Work : Type}

/-- The panic of a leaf. -/
def panic? : Note Work → Option Panic
  | performed _ _ _ (.error panic) => some panic
  | _ => none

/-- Whether a guard has decided to run its region again. -/
def isRedelivery : Note Work → Bool
  | guarded _ (.redelivery _ _ _) => true
  | _ => false

end Note

/-- One of these notes is a panic. -/
def Panicked {Work : Type} (notes : List (Note Work)) (panic : Panic) : Prop :=
  ∃ note ∈ notes, note.panic? = some panic

/-- Nothing holds a panic up: everything is pinned, or no guard was entered by an exchange that it
had to pin. -/
def Exposed {Work : Type} (pinned : Bool) (notes : List (Note Work)) : Prop :=
  pinned = true ∨ ∀ handler x, .entered handler x ∈ notes → x.transacted = false

/-- What the notes of a run tell of its fate: a run that panics does so with the panic of a leaf, a
panic that nothing holds up ends the run, and a run that is cut short has redelivered as often as it
could. -/
structure Traces {Work : Type} (bound : Nat) (pinned : Bool) (fate : Fate)
    (notes : List (Note Work)) : Prop where
  panicked : ∀ panic, fate = .panicked panic → Panicked notes panic
  ends : Exposed pinned notes → ∀ panic, Panicked notes panic → fate = .panicked panic
  cut : fate = .unfinished → bound ≤ notes.countP Note.isRedelivery

section Notes

variable {Work : Type} {bound : Nat} {pinned : Bool} {fate : Fate} {note : Note Work}
  {notes later earlier : List (Note Work)} {panic : Panic}

theorem panicked_append :
    Panicked (later ++ earlier) panic ↔ Panicked later panic ∨ Panicked earlier panic := by
  simp [Panicked, or_and_right, exists_or]

theorem panicked_cons : Panicked (note :: notes) panic ↔
    note.panic? = some panic ∨ Panicked notes panic := by
  simp [Panicked]

theorem Exposed.of_subset (exposed : Exposed pinned notes) (subset : earlier ⊆ notes) :
    Exposed pinned earlier :=
  exposed.imp id fun unpinned handler x member => unpinned handler x (subset member)

theorem Traces.of_le (traces : Traces bound pinned fate notes) {fewer : Nat} (le : fewer ≤ bound) :
    Traces fewer pinned fate notes :=
  ⟨traces.panicked, traces.ends, fun stopped => Nat.le_trans le (traces.cut stopped)⟩

/-- A run goes on where an earlier one has finished. -/
theorem Traces.append (traces : Traces bound pinned fate later) {x : Exchange}
    (finished : Traces bound pinned (.finished x) earlier) :
    Traces bound pinned fate (later ++ earlier) where
  panicked panic stopped := panicked_append.mpr (.inl (traces.panicked panic stopped))
  ends exposed panic was := by
    rcases panicked_append.mp was with inLater | inEarlier
    · exact traces.ends (exposed.of_subset (List.subset_append_left _ _)) panic inLater
    · have stopped := finished.ends (exposed.of_subset (List.subset_append_right _ _)) panic inEarlier
      exact Fate.noConfusion stopped
  cut stopped := by
    rw [List.countP_append]
    exact Nat.le_trans (traces.cut stopped) (Nat.le_add_right _ _)

/-- A note that is no panic changes nothing. -/
theorem Traces.cons (traces : Traces bound pinned fate notes) (silent : note.panic? = none) :
    Traces bound pinned fate (note :: notes) where
  panicked panic stopped := panicked_cons.mpr (.inr (traces.panicked panic stopped))
  ends exposed panic was := by
    rcases panicked_cons.mp was with here | inNotes
    · rw [silent] at here
      simp at here
    · exact traces.ends (exposed.of_subset (List.subset_cons_self _ _)) panic inNotes
  cut stopped := by
    rw [List.countP_cons]
    exact Nat.le_trans (traces.cut stopped) (Nat.le_add_right _ _)

/-- Silent notes tell of a run that has finished. -/
theorem traces_silent (bound : Nat) (pinned : Bool) (x : Exchange)
    (silent : ∀ note ∈ notes, note.panic? = none) : Traces bound pinned (.finished x) notes where
  panicked panic stopped := Fate.noConfusion stopped
  ends _ panic was := by
    obtain ⟨note, member, here⟩ := was
    rw [silent note member] at here
    simp at here
  cut stopped := Fate.noConfusion stopped

/-- A redelivery leaves room for one more. -/
theorem Traces.redelivered (traces : Traces bound pinned fate notes) (silent : note.panic? = none)
    (counts : note.isRedelivery = true) : Traces (bound + 1) pinned fate (notes ++ [note]) where
  panicked panic stopped := panicked_append.mpr (.inl (traces.panicked panic stopped))
  ends exposed panic was := by
    have quiet : Traces bound pinned (.finished default) [note] :=
      traces_silent _ _ _ (by simpa using silent)
    exact (traces.append quiet).ends exposed panic was
  cut stopped := by
    have one : [note].countP Note.isRedelivery = 1 := by simp [counts]
    rw [List.countP_append, one]
    exact Nat.succ_le_succ (traces.cut stopped)

end Notes

/-! ## Steps -/

namespace Behaviour

variable {World Work : Type} {surroundings : Surroundings World Work} {bound : Nat}

/-- A run adds notes to the journal, and they tell of its fate. -/
def Leaves (bound : Nat) (pinned : Bool) (course : Course World Work)
    (outcome : Fate × Course World Work) : Prop :=
  ∃ notes, outcome.2.journal = notes ++ course.journal ∧ Traces bound pinned outcome.1 notes

/-- Every run of a behaviour leaves such notes. -/
def Tells (bound : Nat) (behaviour : Behaviour World Work) : Prop :=
  ∀ pinned x course, Leaves bound pinned course (behaviour pinned x course)

variable {pinned : Bool} {course middle : Course World Work} {outcome : Fate × Course World Work}
  {x after : Exchange}

theorem Leaves.of_le (leaves : Leaves bound pinned course outcome) {fewer : Nat}
    (le : fewer ≤ bound) : Leaves fewer pinned course outcome := by
  obtain ⟨notes, noted, traces⟩ := leaves
  exact ⟨notes, noted, traces.of_le le⟩

/-- What a run leaves when it goes on where an earlier one has finished. -/
theorem Leaves.trans (first : Leaves bound pinned course (.finished after, middle))
    (second : Leaves bound pinned middle outcome) : Leaves bound pinned course outcome := by
  obtain ⟨earlier, before, finished⟩ := first
  obtain ⟨later, behind, traces⟩ := second
  exact ⟨later ++ earlier, by rw [behind, before, List.append_assoc], traces.append finished⟩

theorem leaves_finished (same : middle.journal = course.journal) :
    Leaves bound pinned course (.finished x, middle) :=
  ⟨[], by simp [same], traces_silent bound pinned x (by simp)⟩

/-- An event of a guarded run is no panic. -/
theorem leaves_noteEvent (course : Course World Work) (handler : HandlerId)
    (event : Option Guard.Event) :
    Leaves bound pinned course (.finished x, course.noteEvent handler event) := by
  cases event with
  | none => exact leaves_finished rfl
  | some event => exact ⟨[.guarded handler event], rfl, traces_silent _ _ _ (by simp [Note.panic?])⟩

/-! ## Leaves and pipelines -/

theorem leaf_tells (surroundings : Surroundings World Work) (bound : Nat) (work : Work) :
    (leaf surroundings work).Tells bound := by
  intro pinned x course
  unfold leaf
  cases ran : surroundings.perform work pinned x course.world with
  | mk after world =>
      refine ⟨[.performed work pinned x after], ?_, ?_⟩
      · cases after <;> rfl
      · cases after with
        | ok y => exact traces_silent _ _ _ (by simp [Note.panic?])
        | error panic => constructor <;> simp [Panicked, Note.panic?]

theorem sequence_tells {steps : List (Behaviour World Work)}
    (each : ∀ step ∈ steps, step.Tells bound) : (sequence steps).Tells bound := by
  induction steps with
  | nil => exact fun pinned x course => leaves_finished rfl
  | cons step rest ih =>
      intro pinned x course
      have first := each step List.mem_cons_self pinned x course
      have others := ih fun other member => each other (List.mem_cons_of_mem _ member)
      simp only [sequence]
      split
      · cases ran : step pinned x course with
        | mk fate between =>
            rw [ran] at first
            cases fate with
            | finished y => exact first.trans (others pinned y between)
            | panicked panic => exact first
            | unfinished => exact first
      · exact leaves_finished rfl

/-! ## Guards -/

/-- What a guard can decide: it leaves, it follows a path of its rules, or it runs its region again
and tells so. -/
theorem afterRegion_cases {Path : Type} (handler : Handler Path) (entry : Attempts) (x : Exchange) :
    (∃ y event, Guard.afterRegion handler entry x = (.leave y, event)) ∨
      (∃ y path event, Guard.afterRegion handler entry x = (.follow y path, event) ∧
        ∃ rule ∈ handler.rules, rule.disposition = .handled path) ∨
      ∃ y spacing failure attempt, Guard.afterRegion handler entry x =
        (.redeliver y spacing, some (.redelivery failure attempt spacing)) := by
  unfold Guard.afterRegion
  split
  · split
    · exact .inl ⟨_, _, rfl⟩
    · exact .inl ⟨_, _, rfl⟩
  · next failure _ =>
      split
      · exact .inl ⟨_, _, rfl⟩
      · simp only
        split
        · exact .inl ⟨_, _, rfl⟩
        · simp only [Guard.govern]
          split
          · exact .inr (.inr ⟨_, _, _, _, rfl⟩)
          · cases ruled : handler.classify failure with
            | none => exact .inl ⟨_, _, rfl⟩
            | some rule =>
                simp only [Option.map_some, Option.getD_some]
                cases handled : rule.disposition with
                | propagate => exact .inl ⟨_, _, rfl⟩
                | rollback => exact .inl ⟨_, _, rfl⟩
                | continued => exact .inl ⟨_, _, rfl⟩
                | handled path =>
                    exact .inr (.inl ⟨_, path, _, rfl, rule, List.mem_of_find?_eq_some ruled,
                      handled⟩)

theorem delay_journal (surroundings : Surroundings World Work) (handler : HandlerId)
    (spacing : Spacing) (course : Course World Work) :
    (delay surroundings handler spacing course).2.journal = course.journal := by
  simp only [delay]
  split
  · rfl
  · split <;> rfl

/-- The rounds of a guard leave notes like a single run; if they are cut short, every one of them
has been told. -/
theorem rounds_leaves (surroundings : Surroundings World Work)
    {handler : Handler (Behaviour World Work)} {region : Behaviour World Work}
    (inside : region.Tells bound) (paths : handler.PathsHave (Tells bound)) (entry : Attempts)
    (pinned : Bool) {fuel : Nat} (le : fuel ≤ bound) (x : Exchange) (course : Course World Work) :
    Leaves fuel pinned course (rounds surroundings handler region entry pinned fuel x course) := by
  induction fuel generalizing x course with
  | zero => exact ⟨[], rfl, by constructor <;> simp [Panicked, rounds]⟩
  | succ fuel ih =>
      have first := (inside pinned x course).of_le le
      simp only [rounds]
      cases ran : region pinned x course with
      | mk fate between =>
          rw [ran] at first
          cases fate with
          | panicked panic => exact first
          | unfinished => exact first
          | finished y =>
              rcases afterRegion_cases handler entry y with
                ⟨z, event, decides⟩ | ⟨z, path, event, decides, rule, listed, handled⟩ |
                ⟨z, spacing, failure, attempt, decides⟩
              · simp only [decides]
                exact first.trans (leaves_noteEvent between handler.id event)
              · simp only [decides]
                refine (first.trans (leaves_noteEvent (x := z) between handler.id event)).trans ?_
                have taken := (paths rule listed path handled pinned z
                  (between.noteEvent handler.id event)).of_le le
                cases took : path pinned z (between.noteEvent handler.id event) with
                | mk fate behind =>
                    rw [took] at taken
                    cases fate with
                    | panicked panic => exact taken
                    | unfinished => exact taken
                    | finished w => exact taken.trans (leaves_noteEvent behind handler.id _)
              · simp only [decides]
                have waited := delay_journal surroundings handler.id spacing
                  (between.noteEvent handler.id (some (.redelivery failure attempt spacing)))
                refine first.trans ?_
                split
                · exact (leaves_noteEvent (x := z) between handler.id _).trans
                    ((leaves_finished (x := z) waited).trans (leaves_noteEvent _ handler.id _))
                · obtain ⟨notes, noted, traces⟩ := ih (Nat.le_of_succ_le le) z.withoutFailure
                    (delay surroundings handler.id spacing (between.noteEvent handler.id
                      (some (.redelivery failure attempt spacing)))).2
                  refine ⟨notes ++ [.guarded handler.id (.redelivery failure attempt spacing)], ?_,
                    traces.redelivered rfl rfl⟩
                  rw [noted, waited, List.append_assoc]
                  rfl

/-- A guarded run tells which exchange entered it. -/
theorem guarded_leaves (surroundings : Surroundings World Work)
    {handler : Handler (Behaviour World Work)} {region : Behaviour World Work}
    (inside : region.Tells bound) (paths : handler.PathsHave (Tells bound)) (pinned : Bool)
    (x : Exchange) (course : Course World Work) :
    ∃ notes, (guarded surroundings bound handler region pinned x course).2.journal =
        notes ++ course.journal ∧
      Traces bound pinned (guarded surroundings bound handler region pinned x course).1 notes ∧
      .entered handler.id x ∈ notes := by
  let entered := (course.change (surroundings.enter handler.id)).note (.entered handler.id x)
  obtain ⟨notes, noted, traces⟩ := rounds_leaves surroundings inside paths
    x.redelivery.attempts pinned (Nat.le_refl bound) x entered
  have entering : Traces bound pinned (.finished x)
      ([.entered handler.id x] : List (Note Work)) :=
    traces_silent _ _ _ (by simp [Note.panic?])
  refine ⟨.left handler.id :: (notes ++ [.entered handler.id x]), ?_, ?_, by simp⟩
  · have grown : (rounds surroundings handler region x.redelivery.attempts pinned bound x
        entered).2.journal = notes ++ .entered handler.id x :: course.journal := noted
    simp only [guarded, Course.note, Course.change]
    exact congrArg _ (grown.trans (List.append_cons _ _ _))
  · exact (traces.append entering).cons rfl

/-- **A guard that has to pin holds panics up**: it hands back the exchange that came, with a
failure, whatever the interrupted run has made of it. -/
theorem guard_holds {handler : Handler (Behaviour World Work)} {region : Behaviour World Work}
    {x : Exchange} {course later : Course World Work} {panic : Panic}
    (transacted : x.transacted = true)
    (panics : guarded surroundings bound handler region true x course = (.panicked panic, later)) :
    guard surroundings bound region handler false x course =
      (.finished (x.withFailure panic.joinFailure), later) := by
  simp [guard, pinnedApart, transacted, panics]

theorem guard_tells {handler : Handler (Behaviour World Work)} {region : Behaviour World Work}
    (inside : region.Tells bound) (paths : handler.PathsHave (Tells bound)) :
    (guard surroundings bound region handler).Tells bound := by
  intro pinned x course
  simp only [guard]
  split
  · obtain ⟨notes, noted, traces, _⟩ := guarded_leaves surroundings inside paths pinned x
      course
    exact ⟨notes, noted, traces⟩
  · next pins =>
      obtain ⟨transacted, unpinned⟩ : x.transacted = true ∧ pinned = false := by
        simpa using pins
      obtain ⟨notes, noted, traces, entered⟩ := guarded_leaves surroundings inside paths true
        x course
      have hidden : ¬ Exposed pinned notes := by
        rintro (outer | quiet)
        · simp [unpinned] at outer
        · have plain := quiet _ _ entered
          simp [transacted] at plain
      simp only [pinnedApart]
      cases ran : guarded surroundings bound handler region true x course with
      | mk fate later =>
          rw [ran] at noted traces
          cases fate with
          | panicked panic =>
              refine ⟨notes, noted, ?_, fun exposed => absurd exposed hidden, ?_⟩
              · exact fun _ stopped => Fate.noConfusion stopped
              · exact fun stopped => Fate.noConfusion stopped
          | finished y =>
              refine ⟨notes, noted, ?_, fun exposed => absurd exposed hidden, ?_⟩
              · exact fun _ stopped => Fate.noConfusion stopped
              · exact fun stopped => Fate.noConfusion stopped
          | unfinished =>
              refine ⟨notes, noted, ?_, fun exposed => absurd exposed hidden, ?_⟩
              · exact fun _ stopped => Fate.noConfusion stopped
              · exact traces.cut

end Behaviour

/-- **Every step tells of its panics.** -/
theorem Step.run_tells {World Work : Type} (surroundings : Surroundings World Work) (bound : Nat)
    (step : Step Work) : (step.run surroundings bound).Tells bound := by
  have hands : (behaviours surroundings bound).Hands (Behaviour.Tells bound) :=
    { leaf := fun _ _ work => Behaviour.leaf_tells surroundings bound work
      pipeline := fun _ _ each => Behaviour.sequence_tells each
      guard := fun _ _ inside paths => Behaviour.guard_tells inside paths }
  exact Step.fold_has hands step

/-! ## Deliveries -/

namespace Delivery

variable {World Work : Type}

/-- Whether a panic of a root escapes: the root does its work while it is called, and no thread of
its own stands between it and the caller. -/
def Bare (root : Step Work) (pinned : Bool) (x : Exchange) : Prop :=
  root.isImmediate = true ∧ (x.transacted = false ∨ pinned = true)

/-- The message of a panic that a delivery has contained. That of an immediate root comes from
whoever waited for the thread. -/
def messageOf (root : Step Work) (panic : Panic) : String :=
  if root.isImmediate then panic.joinMessage else panic.message

/-- **Where the panics of a delivery end.** -/
structure Contained (bound : Nat) (root : Step Work) (pinned : Bool) (x : Exchange) (fate : Fate)
    (notes : List (Note Work)) : Prop where
  /-- A panic escapes from nothing but a bare root. -/
  escapes : ∀ panic, fate = .panicked panic ↔ Bare root pinned x ∧ Panicked notes panic
  /-- Unless one does, and unless a guard redelivers for ever, there is an outcome. -/
  returns : notes.countP Note.isRedelivery < bound → (∃ panic, fate = .panicked panic) ∨
    ∃ after time, fate = .finished after ∧ .delivered after.outcome time ∈ notes
  /-- A panic that nothing holds up fails the exchange that entered the delivery. -/
  fails : ¬ Bare root pinned x → Exposed (pinned || x.transacted) notes → ∀ panic,
    Panicked notes panic →
      fate = .finished (x.beginDelivery.withFailure (Panic.failure (messageOf root panic))) ∧
        (x.beginDelivery.withFailure (Panic.failure (messageOf root panic))).outcome = .failed

variable {surroundings : Surroundings World Work} {bound : Nat} {root : Step Work} {pinned : Bool}
  {x : Exchange} {fate : Fate} {course later : Course World Work} {notes : List (Note Work)}

/-- How a delivery ends once its root has run. -/
def settle (root : Step Work) (pinned : Bool) (x : Exchange) : Fate → Fate
  | .panicked panic =>
    if root.isImmediate && (!x.transacted || pinned) then .panicked panic
    else .finished (x.beginDelivery.withFailure (Panic.failure (messageOf root panic)))
  | other => other

theorem runRoot_eq
    (ran : root.run surroundings bound (pinned || x.transacted) x.beginDelivery course =
      (fate, later)) :
    runRoot surroundings bound root pinned x.beginDelivery course =
      (settle root pinned x fate, later) := by
  have flag : x.beginDelivery.transacted = x.transacted := rfl
  cases transacted : x.transacted with
  | false =>
      rw [transacted, Bool.or_false] at ran
      simp only [runRoot, flag, transacted, Bool.false_and, Bool.false_eq_true, if_false, ran]
      cases fate with
      | panicked panic =>
          cases immediate : root.isImmediate <;>
            simp [contain, settle, messageOf, immediate, transacted]
      | finished y => rfl
      | unfinished => rfl
  | true =>
      rw [transacted, Bool.or_true] at ran
      cases pinned with
      | true =>
          simp only [runRoot, Bool.not_true, Bool.and_false, Bool.false_eq_true, if_false, ran]
          cases fate with
          | panicked panic =>
              cases immediate : root.isImmediate <;> simp [contain, settle, messageOf, immediate]
          | finished y => rfl
          | unfinished => rfl
      | false =>
          simp only [runRoot, flag, transacted, Bool.not_false, Bool.and_self, if_true,
            Behaviour.pinnedApart, ran]
          cases fate with
          | panicked panic =>
              cases immediate : root.isImmediate <;>
                simp [contain, settle, messageOf, immediate, transacted, Panic.joinFailure]
          | finished y => rfl
          | unfinished => rfl

/-- An immediate root is a leaf, so no guard holds its panic up. -/
theorem exposed_of_immediate (immediate : root.isImmediate = true)
    (noted : (root.run surroundings bound pinned x course).2.journal = notes ++ course.journal) :
    Exposed pinned notes := by
  cases root with
  | pipeline name steps => simp [Step.isImmediate] at immediate
  | guard region handler => simp [Step.isImmediate] at immediate
  | leaf name immediate work =>
      change (Behaviour.leaf surroundings work pinned x course).2.journal = _ at noted
      obtain ⟨only, single⟩ : ∃ after, notes = [.performed work pinned x after] := by
        unfold Behaviour.leaf at noted
        cases performed : surroundings.perform work pinned x course.world with
        | mk after world =>
            refine ⟨after, ?_⟩
            rw [performed] at noted
            have grown : [.performed work pinned x after] ++ course.journal =
                notes ++ course.journal := by
              cases after <;> exact noted
            exact (List.append_cancel_right grown).symm
      right
      intro handler y member
      simp [single] at member

theorem settle_bare (bare : Bare root pinned x) (panic : Panic) :
    settle root pinned x (.panicked panic) = .panicked panic := by
  simp [settle, bare.1, bare.2]

theorem settle_contained (contained : ¬ Bare root pinned x) (panic : Panic) :
    settle root pinned x (.panicked panic) =
      .finished (x.beginDelivery.withFailure (Panic.failure (messageOf root panic))) := by
  simp only [settle]
  rw [if_neg]
  simpa [Bare] using contained

/-- What a delivery notes at its end. -/
def closing (time : Duration) : Fate → List (Note Work)
  | .finished after => [.delivered after.outcome time]
  | _ => []

theorem panicked_closing {time : Duration} {panic : Panic} :
    Panicked (closing time fate ++ notes) panic ↔ Panicked notes panic := by
  cases fate <;> simp [closing, Panicked, Note.panic?]

theorem exposed_closing {time : Duration} :
    Exposed pinned (closing time fate ++ notes) ↔ Exposed pinned notes := by
  cases fate <;> simp [closing, Exposed]

theorem deliver_eq
    (ran : root.run surroundings bound (pinned || x.transacted) x.beginDelivery course =
      (fate, later)) :
    ∃ time, (deliver surroundings bound root pinned x course).1 = settle root pinned x fate ∧
      (deliver surroundings bound root pinned x course).2.journal =
        closing time (settle root pinned x fate) ++ later.journal := by
  refine ⟨Duration.ofNanos (surroundings.clock later.world - surroundings.clock course.world), ?_⟩
  simp only [deliver, runRoot_eq ran]
  cases settle root pinned x fate <;> exact ⟨rfl, rfl⟩

/-- A delivery panics exactly if its root is bare and a leaf has panicked. -/
theorem escapes_iff (traces : Traces bound (pinned || x.transacted) fate notes)
    (seen : root.isImmediate = true → Exposed (pinned || x.transacted) notes) (panic : Panic) :
    settle root pinned x fate = .panicked panic ↔ Bare root pinned x ∧ Panicked notes panic := by
  constructor
  · intro escapes
    cases fate with
    | finished y => exact Fate.noConfusion escapes
    | unfinished => exact Fate.noConfusion escapes
    | panicked first =>
        by_cases bare : Bare root pinned x
        · rw [settle_bare bare, Fate.panicked.injEq] at escapes
          exact ⟨bare, escapes ▸ traces.panicked first rfl⟩
        · rw [settle_contained bare] at escapes
          exact Fate.noConfusion escapes
  · rintro ⟨bare, was⟩
    rw [traces.ends (seen bare.1) panic was, settle_bare bare]

/-- A root that does not redeliver for ever leaves a delivery with a panic or an exchange. -/
theorem settle_of_few (traces : Traces bound (pinned || x.transacted) fate notes)
    (few : notes.countP Note.isRedelivery < bound) :
    (∃ panic, settle root pinned x fate = .panicked panic) ∨
      ∃ after, settle root pinned x fate = .finished after := by
  cases fate with
  | finished y => exact .inr ⟨y, rfl⟩
  | unfinished => exact absurd (traces.cut rfl) (Nat.not_le_of_lt few)
  | panicked panic =>
      by_cases bare : Bare root pinned x
      · exact .inl ⟨panic, settle_bare bare panic⟩
      · exact .inr ⟨_, settle_contained bare panic⟩

/-- An exchange that fails at the start of its delivery is a failed one. -/
theorem outcome_beginDelivery (x : Exchange) (message : String) :
    (x.beginDelivery.withFailure (Panic.failure message)).outcome = .failed := rfl

/-- **Panics are contained.** Whatever the tree of steps, the surroundings and the exchange: the
panic of a leaf escapes exactly if the root is bare; otherwise the delivery has an outcome, and once
a leaf has panicked whose panic nothing holds up, it has failed, on the exchange that entered it. A
guard that has to pin holds panics up, and hands back the exchange that entered the guard. -/
theorem panics_contained (surroundings : Surroundings World Work) (bound : Nat) :
    (∀ (root : Step Work) (pinned : Bool) (x : Exchange) (course : Course World Work),
      ∃ notes, (deliver surroundings bound root pinned x course).2.journal =
          notes ++ course.journal ∧
        Contained bound root pinned x (deliver surroundings bound root pinned x course).1 notes) ∧
    ∀ (region : Behaviour World Work) (handler : Handler (Behaviour World Work)) (x : Exchange)
      (course later : Course World Work) (panic : Panic), x.transacted = true →
      Behaviour.guarded surroundings bound handler region true x course =
        (.panicked panic, later) →
      Behaviour.guard surroundings bound region handler false x course =
        (.finished (x.withFailure panic.joinFailure), later) := by
  refine ⟨?_, fun region handler x course later panic => Behaviour.guard_holds⟩
  intro root pinned x course
  cases ran : root.run surroundings bound (pinned || x.transacted) x.beginDelivery course with
  | mk fate later =>
      obtain ⟨notes, noted, traces⟩ := root.run_tells surroundings bound (pinned || x.transacted)
        x.beginDelivery course
      have seen : root.isImmediate = true → Exposed (pinned || x.transacted) notes :=
        fun immediate => exposed_of_immediate immediate noted
      obtain ⟨time, settled, closed⟩ := deliver_eq ran
      rw [ran] at noted traces
      change Traces bound _ fate notes at traces
      refine ⟨closing time (settle root pinned x fate) ++ notes, ?_, ?_⟩
      · rw [closed, noted, List.append_assoc]
      · rw [settled]
        refine ⟨fun panic => ?_, fun few => ?_, fun contained exposed panic was => ?_⟩
        · rw [panicked_closing]
          exact escapes_iff traces seen panic
        · rw [List.countP_append] at few
          rcases settle_of_few traces (Nat.lt_of_le_of_lt (Nat.le_add_left _ _) few) with
            panics | ⟨after, finished⟩
          · exact .inl panics
          · exact .inr ⟨after, time, finished, by simp [finished, closing]⟩
        · rw [panicked_closing] at was
          rw [exposed_closing] at exposed
          rw [traces.ends exposed panic was, settle_contained contained]
          exact ⟨rfl, outcome_beginDelivery x _⟩

/-- Nothing contains the panic of a bare root: the delivery has no outcome. -/
example :
    let perform : Unit → Bool → Exchange → Unit → Except Panic Exchange × Unit :=
      fun _ _ _ _ => (.error (.text "boom"), ())
    let surroundings : Surroundings Unit Unit :=
      { perform, enter := fun _ world => world, leave := fun _ world => world
        signalled := fun _ _ => false, scale := fun _ => default
        pause := fun _ _ world => (false, world)
        clock := fun _ => 0 }
    (deliver surroundings 1 (.leaf "f" true ()) false default (Course.start ())).1 =
      .panicked (.text "boom") := rfl

end Delivery

end Mediation
