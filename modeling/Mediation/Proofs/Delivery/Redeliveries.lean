import Mediation.Proofs.Delivery.Chronicles
import Mediation.Proofs.Guard.Budget

/-!
# How redeliveries are counted

All guards of a tree count on the exchange, and the engine counts in its journal. As long as no leaf
writes to the count and none panics, the two agree at every moment: whatever shows the exchange
shows as many attempts as there were redeliveries before (`Counted.shown`), and so does the result
(`Delivery.redeliveries_counted`). A redelivery that is then interrupted is one of them.

A panic that a guard holds up breaks this, because the guard hands back the exchange that entered
it: what was counted since then is lost to the exchange. It is never the other way round.
-/

set_option autoImplicit false

namespace Mediation

/-! ## Counting up -/

namespace Attempts

/-- So many more attempts. -/
def more (attempts : Attempts) : Nat → Attempts
  | 0 => attempts
  | number + 1 => (more attempts number).next

theorem more_add (attempts : Attempts) (number others : Nat) :
    attempts.more (number + others) = (attempts.more number).more others := by
  induction others with
  | zero => rfl
  | succ others ih => exact congrArg next ih

theorem toNat_more_le (attempts : Attempts) (number : Nat) :
    (attempts.more number).toNat ≤ attempts.toNat + number := by
  induction number with
  | zero => exact Nat.le_refl _
  | succ number ih =>
      have one : (attempts.more number).next.toNat ≤ (attempts.more number).toNat + 1 := by
        by_cases fits : (attempts.more number).toNat + 1 < UInt32.size
        · exact Nat.le_of_eq (toNat_next fits)
        · have bounded := UInt32.toNat_lt_size (attempts.more number).next
          omega
      rw [more]
      omega

/-- Below the largest count every attempt counts. -/
theorem toNat_more {attempts : Attempts} {number : Nat}
    (fits : attempts.toNat + number < UInt32.size) :
    (attempts.more number).toNat = attempts.toNat + number := by
  induction number with
  | zero => rfl
  | succ number ih =>
      have before := ih (by omega)
      rw [more, toNat_next (by omega), before]
      omega

theorem le_more (attempts : Attempts) (number : Nat) : attempts ≤ attempts.more number := by
  rw [UInt32.le_iff_toNat_le]
  induction number with
  | zero => exact Nat.le_refl _
  | succ number ih =>
      exact Nat.le_trans ih (GuardedRun.le_next _)

end Attempts

/-! ## What a journal tells of the count -/

section Journals

variable {Work : Type}

/-- The counts of the exchange that an entry shows, the latest first. -/
def Note.counts : Note Work → List Attempts
  | performed _ _ before (.ok after) => [after.redelivery.attempts, before.redelivery.attempts]
  | performed _ _ before (.error _) => [before.redelivery.attempts]
  | entered _ x => [x.redelivery.attempts]
  | _ => []

/-- If a leaf ran, it left the count alone. -/
def Note.Steady : Note Work → Prop
  | performed _ _ before (.ok after) => after.redelivery.attempts = before.redelivery.attempts
  | _ => True

/-- No leaf has written to the count. -/
def Steady (notes : List (Note Work)) : Prop := ∀ note ∈ notes, note.Steady

/-- How often it was decided to run a region again. -/
abbrev redeliveries (notes : List (Note Work)) : Nat := notes.countP Note.isRedelivery

/-- Every entry shows the count with which it began and the redeliveries that went before. -/
def Shows (start : Attempts) : List (Note Work) → Prop
  | [] => True
  | note :: earlier =>
    (∀ count ∈ note.counts, count = start.more (redeliveries earlier)) ∧ Shows start earlier

variable {start : Attempts} {x y z : Exchange} {fate : Fate} {note : Note Work}
  {notes later earlier : List (Note Work)}

theorem steady_append : Steady (later ++ earlier) ↔ Steady later ∧ Steady earlier :=
  List.forall_mem_append

theorem steady_cons : Steady (note :: notes) ↔ note.Steady ∧ Steady notes :=
  List.forall_mem_cons

theorem redeliveries_append : redeliveries (later ++ earlier) =
    redeliveries earlier + redeliveries later := by
  rw [redeliveries, List.countP_append, Nat.add_comm]

theorem shows_append : Shows start (later ++ earlier) ↔
    Shows (start.more (redeliveries earlier)) later ∧ Shows start earlier := by
  induction later with
  | nil => simp [Shows]
  | cons note later ih =>
      rw [List.cons_append, Shows, Shows, ih, redeliveries_append, Attempts.more_add, and_assoc]

/-- Entries that show nothing. -/
theorem shows_of_blank (blank : ∀ note ∈ notes, note.counts = []) : Shows start notes := by
  induction notes with
  | nil => trivial
  | cons note notes ih =>
      obtain ⟨here, others⟩ := List.forall_mem_cons.mp blank
      exact ⟨by simp [here], ih others⟩

theorem shows_guarded (handler : HandlerId) (events : List Guard.Event) :
    Shows start (events.map (Note.guarded handler) : List (Note Work)) := by
  refine shows_of_blank fun note member => ?_
  obtain ⟨event, _, rfl⟩ := List.mem_map.mp member
  rfl

/-- What is shown has not been counted beyond. -/
theorem Shows.le_more (shows : Shows start notes) :
    ∀ count ∈ notes.flatMap Note.counts, count ≤ start.more (redeliveries notes) := by
  induction notes with
  | nil => simp
  | cons note notes ih =>
      have grows : start.more (redeliveries notes) ≤ start.more (redeliveries (note :: notes)) := by
        rw [← List.singleton_append, redeliveries_append, Attempts.more_add]
        exact Attempts.le_more _ _
      intro count member
      rw [List.flatMap_cons, List.mem_append] at member
      rcases member with here | before
      · rw [shows.1 count here]
        exact grows
      · exact UInt32.le_trans (ih shows.2 count before) grows

/-- What is shown never falls. -/
theorem Shows.rises (shows : Shows start notes) :
    (notes.flatMap Note.counts).Pairwise fun after before => before ≤ after := by
  induction notes with
  | nil => exact List.Pairwise.nil
  | cons note notes ih =>
      rw [List.flatMap_cons, List.pairwise_append]
      refine ⟨?_, ih shows.2, fun after here before there => ?_⟩
      · refine List.pairwise_iff_forall_sublist.mpr fun {after before} sublist => ?_
        have both := sublist.subset
        rw [shows.1 after (both (by simp)), shows.1 before (both (by simp))]
        exact UInt32.le_refl _
      · rw [shows.1 after here]
        exact shows.2.le_more before there

theorem Shows.split (shows : Shows start notes) (split : notes = later ++ note :: earlier) :
    ∀ count ∈ note.counts, count = start.more (redeliveries earlier) := by
  rw [split, shows_append] at shows
  exact shows.2.1

/-! ## What runs count -/

/-- How a run counts redeliveries. -/
structure Counted (x : Exchange) (fate : Fate) (notes : List (Note Work)) : Prop where
  panicked : ∀ panic, fate = .panicked panic → Panicked notes panic
  shown : Calm notes → Steady notes → Shows x.redelivery.attempts notes
  counts : Calm notes → Steady notes → ∀ y, fate = .finished y →
    y.redelivery.attempts = x.redelivery.attempts.more (redeliveries notes)
  /-- Panics or not, no more is counted than was redelivered. -/
  most : Steady notes → ∀ y, fate = .finished y →
    y.redelivery.attempts.toNat ≤ x.redelivery.attempts.toNat + redeliveries notes

/-- A guard counts what it redelivers, and nothing else. -/
theorem Guard.Moves.counts {Path : Type} {handler : Handler Path} {entry : Attempts}
    {events : List Guard.Event} (move : Guard.Moves handler entry x y events) :
    y.redelivery.attempts = x.redelivery.attempts.more
      (redeliveries (events.map (Note.guarded handler.id) : List (Note Work))) := by
  cases move <;> rfl

theorem Counted.append (first : Counted x (.finished y) earlier) (second : Counted y fate later) :
    Counted x fate (later ++ earlier) where
  panicked panic same := panicked_append.mpr (.inl (second.panicked panic same))
  shown calm steady := by
    obtain ⟨calmLater, calmEarlier⟩ := calm_append.mp calm
    obtain ⟨steadyLater, steadyEarlier⟩ := steady_append.mp steady
    have there := second.shown calmLater steadyLater
    rw [first.counts calmEarlier steadyEarlier y rfl] at there
    exact shows_append.mpr ⟨there, first.shown calmEarlier steadyEarlier⟩
  counts calm steady z same := by
    obtain ⟨calmLater, calmEarlier⟩ := calm_append.mp calm
    obtain ⟨steadyLater, steadyEarlier⟩ := steady_append.mp steady
    rw [second.counts calmLater steadyLater z same, first.counts calmEarlier steadyEarlier y rfl,
      redeliveries_append, Attempts.more_add]
  most steady z same := by
    obtain ⟨steadyLater, steadyEarlier⟩ := steady_append.mp steady
    have here := first.most steadyEarlier y rfl
    have there := second.most steadyLater z same
    rw [redeliveries_append]
    omega

/-- Guards move. -/
theorem Counted.moves {Path : Type} {handler : Handler Path} {entry : Attempts}
    {events : List Guard.Event} (counted : Counted x (.finished y) notes)
    (move : Guard.Moves handler entry y z events) :
    Counted x (.finished z) (events.map (.guarded handler.id) ++ notes) := by
  have counts : z.redelivery.attempts = y.redelivery.attempts.more
      (redeliveries (events.map (Note.guarded handler.id) : List (Note Work))) := move.counts
  refine counted.append ⟨by simp, fun _ _ => shows_guarded _ _, fun _ _ w same => ?_,
    fun _ w same => ?_⟩
  all_goals obtain rfl := Fate.finished.inj same
  · exact counts
  · rw [counts]
    exact Attempts.toNat_more_le _ _

/-- An entry that is no redelivery. -/
theorem counted_single (plain : note.isRedelivery = false)
    (shown : note.Steady → ∀ count ∈ note.counts, count = x.redelivery.attempts)
    (same : note.Steady → y.redelivery.attempts = x.redelivery.attempts) :
    Counted x (.finished y) [note] := by
  have none : redeliveries [note] = 0 := by simp [redeliveries, plain]
  refine ⟨by simp, fun _ steady => ⟨?_, trivial⟩, fun _ steady z finished => ?_,
    fun steady z finished => ?_⟩
  · exact shown (steady note List.mem_cons_self)
  · obtain rfl := Fate.finished.inj finished
    rw [none, same (steady note List.mem_cons_self)]
    rfl
  · obtain rfl := Fate.finished.inj finished
    rw [none, same (steady note List.mem_cons_self)]
    exact Nat.le_refl _

/-- An entry closes a run that shows nothing and counts nothing. -/
theorem Counted.close (counted : Counted x fate notes) (plain : note.isRedelivery = false)
    (blank : note.counts = []) : Counted x fate (note :: notes) := by
  have same : redeliveries (note :: notes) = redeliveries notes :=
    List.countP_cons_of_neg (by simp [plain])
  refine ⟨fun panic ends => ?_, fun calm steady => ⟨by simp [blank], ?_⟩,
    fun calm steady => ?_, fun steady => ?_⟩
  · exact panicked_cons.mpr (.inr (counted.panicked panic ends))
  · exact counted.shown (calm_cons.mp calm).2 (steady_cons.mp steady).2
  · rw [same]
    exact counted.counts (calm_cons.mp calm).2 (steady_cons.mp steady).2
  · rw [same]
    exact counted.most (steady_cons.mp steady).2

/-- Whoever contains a panic hands back the exchange that entered, with its count. -/
theorem Counted.contained {panic : Panic} (counted : Counted x (.panicked panic) notes)
    (failure : Failure) : Counted x (.finished (x.withFailure failure)) notes where
  panicked := by simp
  shown := counted.shown
  counts calm := absurd (counted.panicked panic rfl) (calm.not_panicked panic)
  most _ y same := by
    obtain rfl := Fate.finished.inj same
    exact Nat.le_add_right _ _

/-- **Runs count redeliveries** as long as nobody panics. -/
theorem chronicle_counted :
    Chronicle fun x fate (notes : List (Note Work)) => Counted x fate notes where
  idle x :=
    { panicked := by simp
      shown := fun _ _ => trivial
      counts := fun _ _ y same => by
        obtain rfl := Fate.finished.inj same
        rfl
      most := fun _ y same => by
        obtain rfl := Fate.finished.inj same
        exact Nat.le_refl _ }
  cut x :=
    { panicked := by simp, shown := fun _ _ => trivial, counts := by simp, most := by simp }
  leaf work pinned x after := by
    cases after with
    | ok after =>
        refine counted_single rfl (fun steady count member => ?_) id
        rcases List.mem_cons.mp member with rfl | member
        · exact steady
        · exact List.mem_singleton.mp member
    | error panic =>
        refine ⟨fun first same => ?_, fun _ _ => ⟨fun count member => ?_, trivial⟩,
          by simp [Fate.ofLeaf], by simp [Fate.ofLeaf]⟩
        · obtain rfl := Fate.panicked.inj same
          exact ⟨_, List.mem_singleton_self _, rfl⟩
        · exact List.mem_singleton.mp member
  follows first _ second := first.append second
  moves first move := first.moves move
  encloses {x fate notes} handler inside := by
    have entering : Counted x (.finished x) [(.entered handler x : Note Work)] :=
      counted_single rfl (fun _ count member => List.mem_singleton.mp member) fun _ => rfl
    exact (entering.append inside).close rfl rfl
  holds told := told.contained _

theorem closes_counted :
    Chronicle.Closes fun x fate (notes : List (Note Work)) => Counted x fate notes where
  contains failure told := told.contained failure
  delivered _ _ told := told.close rfl rfl

end Journals

/-! ## Deliveries -/

namespace Delivery

variable {World Work : Type} {x : Exchange} {fate : Fate} {notes : List (Note Work)}

/-- The engine counts the redeliveries of its journal. -/
theorem value_redeliveries (course : Course World Work) :
    course.tally.value .redeliveries = redeliveries course.journal := by
  refine course.value_tally fun note => ?_
  cases note with
  | guarded handler event =>
      cases event <;> simp [Note.counter?, Note.eventCounter?, Note.isRedelivery]
  | delivered outcome time =>
      cases outcome <;> simp [Note.counter?, Note.outcomeCounter, Note.isRedelivery]
  | _ => simp [Note.counter?, Note.isRedelivery]

/-- How a delivery counts redeliveries. -/
structure CountsRedeliveries (before after : Tally) (fate : Fate) (notes : List (Note Work)) :
    Prop where
  /-- The engine counts each of them. -/
  published : after.value .redeliveries = before.value .redeliveries + redeliveries notes
  /-- So does the exchange, from zero, and one after another, up to the largest count there is. -/
  counts : Calm notes → Steady notes → ∀ y, fate = .finished y →
    y.redelivery.attempts = Attempts.more 0 (redeliveries notes)
  agrees : Calm notes → Steady notes → redeliveries notes < UInt32.size → ∀ y, fate = .finished y →
    y.redelivery.attempts.toNat = redeliveries notes
  /-- Wherever the exchange is shown, it has counted all redeliveries before. -/
  shown : Calm notes → Steady notes → ∀ later note earlier, notes = later ++ note :: earlier →
    ∀ count ∈ note.counts, count = Attempts.more 0 (redeliveries earlier)
  /-- The count never falls, up to the end. -/
  rises : Calm notes → Steady notes →
    (notes.flatMap Note.counts).Pairwise (fun after before => before ≤ after) ∧
      ∀ y, fate = .finished y → ∀ count ∈ notes.flatMap Note.counts,
        count ≤ y.redelivery.attempts
  /-- Panics or not, the exchange has counted no more than the engine. -/
  most : Steady notes → ∀ y, fate = .finished y →
    y.redelivery.attempts.toNat ≤ redeliveries notes

theorem countsRedeliveries_of_counted {course later : Course World Work}
    (counted : Counted x.beginDelivery fate notes)
    (noted : later.journal = notes ++ course.journal) :
    CountsRedeliveries course.tally later.tally fate notes where
  published := by
    rw [value_redeliveries, value_redeliveries, noted, redeliveries_append]
  counts := counted.counts
  agrees calm steady few y ends := by
    have fits : (0 : Attempts).toNat + redeliveries notes < UInt32.size :=
      Nat.lt_of_le_of_lt (Nat.le_of_eq (Nat.zero_add _)) few
    rw [counted.counts calm steady y ends]
    exact (Attempts.toNat_more fits).trans (Nat.zero_add _)
  shown calm steady _ _ _ split := (counted.shown calm steady).split split
  rises calm steady := by
    have shows := counted.shown calm steady
    refine ⟨shows.rises, fun y ends count member => ?_⟩
    rw [counted.counts calm steady y ends]
    exact shows.le_more count member
  most steady y ends :=
    Nat.le_trans (counted.most steady y ends) (Nat.le_of_eq (Nat.zero_add _))

/-- **Every redelivery is counted once.** Whatever the tree of steps and the surroundings: as long
as leaves leave the count alone and none panics, the exchange counts the redeliveries that all
guards of the tree decide on, those included that are interrupted, at every moment of the delivery,
and what it had counted when it came makes no difference. A guard that has to pin holds a panic up
with the exchange that entered it, and what was counted since then is gone. -/
theorem redeliveries_counted (surroundings : Surroundings World Work) (bound : Nat) :
    (∀ (root : Step Work) (pinned : Bool) (x : Exchange) (course : Course World Work),
      ∃ notes, (deliver surroundings bound root pinned x course).2.journal =
          notes ++ course.journal ∧
        CountsRedeliveries course.tally (deliver surroundings bound root pinned x course).2.tally
          (deliver surroundings bound root pinned x course).1 notes) ∧
    (∀ (root : Step Work) (pinned : Bool) (x : Exchange) (redelivery : Redelivery)
      (course : Course World Work),
      deliver surroundings bound root pinned { x with redelivery } course =
        deliver surroundings bound root pinned x course) ∧
    ∀ (handler : Handler (Behaviour World Work)) (region : Behaviour World Work) (x : Exchange)
      (course later : Course World Work) (panic : Panic), x.transacted = true →
      Behaviour.guarded surroundings bound handler region true x course =
        (.panicked panic, later) →
      ∃ y, Behaviour.guard surroundings bound region handler false x course =
          (.finished y, later) ∧ y.redelivery.attempts = x.redelivery.attempts := by
  refine ⟨?_, fun _ _ _ _ _ => rfl, fun handler region x course later panic transacted panics =>
    ⟨_, Behaviour.guard_holds transacted panics, rfl⟩⟩
  intro root pinned x course
  obtain ⟨notes, journal, counted⟩ :=
    chronicle_counted.deliver_tells closes_counted surroundings bound root pinned x course
  exact ⟨notes, journal, countsRedeliveries_of_counted counted journal⟩

/-- One redelivery, of a leaf that fails and then panics behind one that marks the exchange as
transacted: the engine has counted it, the exchange has not. -/
example :
    let surroundings : Surroundings Nat Bool :=
      { perform := fun marks _ x runs =>
          if marks then (.ok { x with transacted := true }, runs)
          else if runs = 0 then (.ok (x.withFailure (.step "io" "down")), 1)
          else (.error (.text "boom"), runs)
        enter := fun _ world => world, leave := fun _ world => world
        signalled := fun _ _ => false, scale := fun _ => default
        pause := fun _ _ world => (false, world)
        clock := fun _ => 0 }
    let handler : Handler (Step Bool) :=
      { id := 0, policy := { Policy.standard with maxRedeliveries := 1 }, rules := [] }
    let root := Step.pipeline "p" [.leaf "on" true true, .guard (.leaf "r" true false) handler]
    let ended := deliver surroundings 3 root false default (Course.start 0)
    ended.2.tally.value .redeliveries = 1 ∧
      ∃ y, ended.1 = .finished y ∧ y.redelivery.attempts = 0 := ⟨rfl, _, rfl, rfl⟩

end Delivery

end Mediation
