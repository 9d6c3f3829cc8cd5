import Mediation.Proofs.Delivery.Causes

/-!
# How giving up is counted

A guard wraps a failure when redelivery has given up, and when its handled path fails. Only the
first is counted. So the counter tells how many failures were wrapped exactly if no handled path has
failed (`Delivery.exhaustion_counted`), and whatever a guard lets through as it is, or puts on the
exchange because its handler shuts down, is not counted either.

What was wrapped is read off the failure slot itself. `slotAfter` follows the slot through a
journal; as long as no leaf panics, every entry shows what it says (`Told`), and so does the result.
An entry of a guard wraps if behind it the slot has the failure from before inside a wrapper
(`Note.wraps`).
-/

set_option autoImplicit false

namespace Mediation

/-- The failure inside the outermost wrapper of given-up redeliveries. -/
def Failure.wrapped? : Failure → Option Failure
  | exhausted _ cause => some cause
  | _ => none

/-- No failure is its own cause. -/
theorem Failure.wrapped?_ne (failure : Failure) : failure.wrapped? ≠ some failure := by
  induction failure with
  | exhausted attempts cause ih =>
      intro same
      have own : cause = .exhausted attempts cause := Option.some.inj same
      rw [own] at ih
      exact ih (congrArg some own)
  | _ => simp [wrapped?]

/-! ## What a journal tells of the failure slot -/

section Journals

variable {Work : Type}

/-- What an entry leaves in the failure slot of an exchange of this id. -/
def Note.slot (id : String) (slot : Option Failure) : Note Work → Option Failure
  | performed _ _ _ (.ok after) => after.failure
  | guarded _ (.redelivery _ _ _) | guarded _ .handled | guarded _ .continued => none
  | guarded _ (.interrupted attempt) =>
    some (Guard.interruption (Exchange.receive id Message.empty) attempt)
  | guarded _ (.exhausted attempts) | guarded _ (.pathFailed attempts) =>
    slot.map (.exhausted attempts)
  | _ => slot

/-- What is in the failure slot of an exchange of this id behind a journal. -/
def slotAfter (id : String) (slot : Option Failure) : List (Note Work) → Option Failure
  | [] => slot
  | note :: earlier => note.slot (idAfter id earlier) (slotAfter id slot earlier)

/-- An entry finds this in the failure slot. A guard gives up on no rollback, and it wraps no
failure of a handled path that is a rollback or wrapped already. -/
def Note.Finds (slot : Option Failure) : Note Work → Prop
  | performed _ _ before _ => before.failure = slot
  | entered _ x => x.failure = slot
  | guarded _ (.exhausted _) => ∃ failure, slot = some failure ∧ failure.isRollback = false
  | guarded _ (.pathFailed _) =>
    ∃ failure, slot = some failure ∧ failure.isExhausted = false ∧ failure.isRollback = false
  | _ => True

/-- Every entry of a journal finds in the failure slot what the entries before it have left. -/
def Told (id : String) (slot : Option Failure) : List (Note Work) → Prop
  | [] => True
  | note :: earlier => note.Finds (slotAfter id slot earlier) ∧ Told id slot earlier

/-- Whether a guard wraps the failure in the slot. -/
def Note.wraps (id : String) (slot : Option Failure) : Note Work → Bool
  | guarded handler event =>
    slot.isSome &&
      ((guarded handler event : Note Work).slot id slot).bind Failure.wrapped? == slot
  | _ => false

/-- How often guards have wrapped the failure in the slot. -/
def wrappings (id : String) (slot : Option Failure) : List (Note Work) → Nat
  | [] => 0
  | note :: earlier =>
    (note.wraps (idAfter id earlier) (slotAfter id slot earlier)).toNat + wrappings id slot earlier

/-- Whether redelivery has given up. -/
def Note.isGivingUp : Note Work → Bool
  | guarded _ (.exhausted _) => true
  | _ => false

/-- Whether a handled path has failed. -/
def Note.isPathFailure : Note Work → Bool
  | guarded _ (.pathFailed _) => true
  | _ => false

variable {x y z : Exchange} {fate : Fate} {note : Note Work}
  {notes later earlier : List (Note Work)} {id : String} {slot : Option Failure}

theorem slotAfter_append (id : String) (slot : Option Failure) (later earlier : List (Note Work)) :
    slotAfter id slot (later ++ earlier) =
      slotAfter (idAfter id earlier) (slotAfter id slot earlier) later := by
  induction later with
  | nil => rfl
  | cons note later ih => rw [List.cons_append, slotAfter, slotAfter, ih, idAfter_append]

theorem told_append : Told id slot (later ++ earlier) ↔
    Told (idAfter id earlier) (slotAfter id slot earlier) later ∧ Told id slot earlier := by
  induction later with
  | nil => simp [Told]
  | cons note later ih =>
      rw [List.cons_append, Told, Told, ih, slotAfter_append, and_assoc]

/-- An entry that finds what it should wraps a failure exactly if redelivery has given up or a
handled path has failed. -/
theorem Note.Finds.wraps (finds : note.Finds slot) (id : String) :
    (note.wraps id slot).toNat = note.isGivingUp.toNat + note.isPathFailure.toNat := by
  -- what stays in the slot is not around itself
  have unchanged : (slot.isSome && slot.bind Failure.wrapped? == slot) = false := by
    cases slot with
    | none => rfl
    | some failure => simpa using failure.wrapped?_ne
  have cleared : (slot.isSome && (none : Option Failure) == slot) = false := by
    cases slot <;> rfl
  cases note with
  | guarded handler event =>
      cases event with
      | redelivery failure attempt delay => exact congrArg Bool.toNat cleared
      | interrupted attempt => exact congrArg Bool.toNat cleared
      | handled => exact congrArg Bool.toNat cleared
      | continued => exact congrArg Bool.toNat cleared
      | rolledBack => exact congrArg Bool.toNat unchanged
      | exhausted attempts =>
          obtain ⟨failure, rfl, _⟩ := finds
          simp [Note.wraps, Note.slot, Failure.wrapped?, Note.isGivingUp, Note.isPathFailure]
      | pathFailed attempts =>
          obtain ⟨failure, rfl, _⟩ := finds
          simp [Note.wraps, Note.slot, Failure.wrapped?, Note.isGivingUp, Note.isPathFailure]
  | _ => rfl

/-- **Failures are wrapped where redelivery gives up and where handled paths fail**, and nowhere
else. -/
theorem Told.wrappings (told : Told id slot notes) :
    wrappings id slot notes =
      notes.countP Note.isGivingUp + notes.countP Note.isPathFailure := by
  induction notes with
  | nil => rfl
  | cons note notes ih =>
      have here := told.1.wraps (idAfter id notes)
      rw [Mediation.wrappings, ih told.2, here, List.countP_cons, List.countP_cons]
      cases note.isGivingUp <;> cases note.isPathFailure <;> simp <;> omega

/-! ## What runs do with the failure slot -/

/-- A run does with the failure slot what its journal tells. -/
structure Replayed (x : Exchange) (fate : Fate) (notes : List (Note Work)) : Prop where
  panicked : ∀ panic, fate = .panicked panic → Panicked notes panic
  told : Calm notes → Told x.id x.failure notes
  slot : Calm notes → ∀ y, fate = .finished y →
    y.id = idAfter x.id notes ∧ y.failure = slotAfter x.id x.failure notes

theorem Replayed.append (first : Replayed x (.finished y) earlier)
    (second : Replayed y fate later) : Replayed x fate (later ++ earlier) where
  panicked panic same := panicked_append.mpr (.inl (second.panicked panic same))
  told calm := by
    obtain ⟨calmLater, calmEarlier⟩ := calm_append.mp calm
    obtain ⟨named, failed⟩ := first.slot calmEarlier y rfl
    have behind := second.told calmLater
    rw [named, failed] at behind
    exact told_append.mpr ⟨behind, first.told calmEarlier⟩
  slot calm z same := by
    obtain ⟨calmLater, calmEarlier⟩ := calm_append.mp calm
    obtain ⟨named, failed⟩ := first.slot calmEarlier y rfl
    obtain ⟨namedSo, failedSo⟩ := second.slot calmLater z same
    rw [named] at namedSo
    rw [named, failed] at failedSo
    exact ⟨by rw [namedSo, idAfter_append], by rw [failedSo, slotAfter_append]⟩

/-- A run that its entries tell of. -/
theorem replayed_of_told (told : Told x.id x.failure notes) (named : y.id = idAfter x.id notes)
    (failed : y.failure = slotAfter x.id x.failure notes) : Replayed x (.finished y) notes where
  panicked := by simp
  told _ := told
  slot _ z same := by
    obtain rfl := Fate.finished.inj same
    exact ⟨named, failed⟩

/-- **A guard** does with the failure slot what it tells. -/
theorem Guard.Moves.replayed {Path : Type} {handler : Handler Path} {entry : Attempts}
    {events : List Guard.Event} (move : Guard.Moves handler entry x y events) :
    Replayed x (.finished y) (events.map (Note.guarded handler.id) : List (Note Work)) := by
  cases move with
  | pass _ _ => exact replayed_of_told trivial rfl rfl
  | rollBack _ => exact replayed_of_told ⟨trivial, trivial⟩ rfl rfl
  | redeliver spacing _ => exact replayed_of_told ⟨trivial, trivial⟩ rfl rfl
  | interrupt spacing _ => exact replayed_of_told ⟨trivial, trivial, trivial⟩ rfl rfl
  | follow _ _ => exact replayed_of_told ⟨trivial, trivial⟩ rfl rfl
  | passOver _ _ => exact replayed_of_told ⟨trivial, trivial⟩ rfl rfl
  | @giveUp failure settles _ =>
      refine replayed_of_told ⟨⟨failure, settles.failed, settles.ordinary⟩, trivial⟩ rfl ?_
      exact (congrArg (Option.map _) settles.failed).symm
  | passOn _ => exact replayed_of_told trivial rfl rfl
  | @wrap failure failed plain ordinary =>
      refine replayed_of_told ⟨⟨failure, failed, plain, ordinary⟩, trivial⟩ rfl ?_
      exact (congrArg (Option.map _) failed).symm

/-- An entry closes a run that leaves the failure slot alone. -/
theorem Replayed.close (replayed : Replayed x fate notes)
    (finds : note.Finds (slotAfter x.id x.failure notes))
    (named : idAfter x.id (note :: notes) = idAfter x.id notes)
    (keeps : slotAfter x.id x.failure (note :: notes) = slotAfter x.id x.failure notes) :
    Replayed x fate (note :: notes) where
  panicked panic same := panicked_cons.mpr (.inr (replayed.panicked panic same))
  told calm := ⟨finds, replayed.told (calm_cons.mp calm).2⟩
  slot calm y same := by
    rw [named, keeps]
    exact replayed.slot (calm_cons.mp calm).2 y same

/-- Of a run that has panicked nothing more is told. -/
theorem Replayed.contained {panic : Panic} (replayed : Replayed x (.panicked panic) notes)
    (failure : Failure) : Replayed x (.finished (x.withFailure failure)) notes where
  panicked := by simp
  told := replayed.told
  slot calm := absurd (replayed.panicked panic rfl) (calm.not_panicked panic)

/-- **Journals tell what runs do with the failure slot**, as long as no leaf panics. -/
theorem chronicle_replayed :
    Chronicle fun x fate (notes : List (Note Work)) => Replayed x fate notes where
  idle x := replayed_of_told trivial rfl rfl
  cut x := ⟨by simp, fun _ => trivial, by simp⟩
  leaf work pinned x after := by
    cases after with
    | ok after => exact replayed_of_told ⟨rfl, trivial⟩ rfl rfl
    | error panic =>
        refine ⟨fun first same => ?_, fun _ => ⟨rfl, trivial⟩, by simp [Fate.ofLeaf]⟩
        obtain rfl := Fate.panicked.inj same
        exact ⟨_, List.mem_singleton_self _, rfl⟩
  follows first _ second := first.append second
  moves first move := first.append move.replayed
  encloses {x fate notes} handler inside := by
    have entering : Replayed x (.finished x) [(.entered handler x : Note Work)] :=
      replayed_of_told ⟨rfl, trivial⟩ rfl rfl
    exact (entering.append inside).close trivial rfl rfl
  holds told := told.contained _

theorem closes_replayed :
    Chronicle.Closes fun x fate (notes : List (Note Work)) => Replayed x fate notes where
  contains failure told := told.contained failure
  delivered _ _ told := told.close trivial rfl rfl

end Journals

/-! ## Deliveries -/

namespace Delivery

variable {World Work : Type}

/-- The engine counts the entries of its journal at which redelivery gave up. -/
theorem value_redeliveryExhausted (course : Course World Work) :
    course.tally.value .redeliveryExhausted = course.journal.countP Note.isGivingUp := by
  refine course.value_tally fun note => ?_
  cases note with
  | guarded handler event =>
      cases event <;> simp [Note.counter?, Note.eventCounter?, Note.isGivingUp]
  | delivered outcome time =>
      cases outcome <;> simp [Note.counter?, Note.outcomeCounter, Note.isGivingUp]
  | _ => simp [Note.counter?, Note.isGivingUp]

/-- How a delivery of an exchange counts that redelivery gave up. -/
structure CountsExhaustion (x : Exchange) (before after : Tally) (fate : Fate)
    (notes : List (Note Work)) : Prop where
  /-- Panics or not, the engine counts where redelivery gave up, and nothing else. -/
  published : after.value .redeliveryExhausted =
    before.value .redeliveryExhausted + notes.countP Note.isGivingUp
  /-- The journal tells what becomes of the failure of the exchange. -/
  told : Calm notes → Told x.id x.failure notes ∧
    ∀ y, fate = .finished y → y.failure = slotAfter x.id x.failure notes
  /-- What was wrapped and not counted is what handled paths failed with. -/
  wrapped : Calm notes → before.value .redeliveryExhausted + wrappings x.id x.failure notes =
    after.value .redeliveryExhausted + notes.countP Note.isPathFailure
  /-- So the counter is right exactly if no handled path has failed. -/
  agrees : Calm notes → (after.value .redeliveryExhausted =
      before.value .redeliveryExhausted + wrappings x.id x.failure notes ↔
    ∀ note ∈ notes, note.isPathFailure = false)

/-- **Giving up is counted where a region has failed.** Whatever the tree of steps and the
surroundings: as long as no leaf panics, the failures that guards wrap during a delivery are those
that the engine counts, and besides them those of handled paths. What guards let through is not
counted, and neither is the failure of a run that was interrupted. -/
theorem exhaustion_counted (surroundings : Surroundings World Work) (bound : Nat)
    (root : Step Work) (pinned : Bool) (x : Exchange) (course : Course World Work) :
    ∃ notes, (deliver surroundings bound root pinned x course).2.journal =
        notes ++ course.journal ∧
      CountsExhaustion x course.tally (deliver surroundings bound root pinned x course).2.tally
        (deliver surroundings bound root pinned x course).1 notes := by
  obtain ⟨notes, journal, replayed⟩ :=
    chronicle_replayed.deliver_tells closes_replayed surroundings bound root pinned x course
  have published :
      (deliver surroundings bound root pinned x course).2.tally.value .redeliveryExhausted =
        course.tally.value .redeliveryExhausted + notes.countP Note.isGivingUp := by
    rw [value_redeliveryExhausted, value_redeliveryExhausted, journal, List.countP_append,
      Nat.add_comm]
  have wraps : Calm notes → wrappings x.id x.failure notes =
      notes.countP Note.isGivingUp + notes.countP Note.isPathFailure :=
    fun calm => (replayed.told calm).wrappings
  have unfailing : notes.countP Note.isPathFailure = 0 ↔
      ∀ note ∈ notes, note.isPathFailure = false := by
    simp [List.countP_eq_zero]
  refine ⟨notes, journal, published, fun calm => ?_, fun calm => ?_, fun calm => ?_⟩
  · exact ⟨replayed.told calm, fun y ends => (replayed.slot calm y ends).2⟩
  · have whole := wraps calm
    omega
  · have whole := wraps calm
    rw [← unfailing]
    omega

/-- A handled path fails: its failure is wrapped, and nothing is counted. -/
example :
    let surroundings : Surroundings Unit Unit :=
      { perform := fun _ _ x world => (.ok (x.withFailure (.step "io" "down")), world)
        enter := fun _ world => world, leave := fun _ world => world
        signalled := fun _ _ => false, scale := fun _ => default
        pause := fun _ _ world => (false, world)
        clock := fun _ => 0 }
    let handler : Handler (Step Unit) :=
      { id := 0, policy := Policy.standard
        rules := [Rule.any.set (.handled (.leaf "path" false ()))] }
    let ended := deliver surroundings 1 (.guard (.leaf "f" false ()) handler) false default
      (Course.start ())
    ended.2.tally.value .redeliveryExhausted = 0 ∧
      ∃ y, ended.1 = .finished y ∧ y.failure = some (.exhausted 0 (.step "io" "down")) :=
  ⟨rfl, _, rfl, rfl⟩

end Delivery

end Mediation
