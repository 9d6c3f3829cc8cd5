import Mediation.Proofs.Delivery.Correspondence

/-!
# Deliveries in and out of a transaction

A transacted delivery runs on a thread of its own, where every guard finds itself pinned; without
the mark of a transaction the same tree runs where its caller is. If the leaves neither read nor
change the mark and do not look whether they are pinned (`Blind`), nobody but the threads can tell
the two apart (`Delivery.transacted_agrees`): the same leaves run in the same order, the same things
are counted, and the exchanges that come back differ in the mark only. That holds whichever leaves
fail, ask for a rollback or panic, in nested guards too: no guard of a transacted delivery pins on
its own, so a panic ends both deliveries at the same place.

The surroundings of the two need not be the same, only such that no leaf and no guard tells them
apart. So a leaf may leave its exchange anywhere, mark and all, where nobody looks at the mark.
-/

set_option autoImplicit false

namespace Mediation

/-! ## Up to the mark -/

/-- The exchange with the mark of a transaction set or not. -/
def Exchange.withTransacted (x : Exchange) (transacted : Bool) : Exchange := { x with transacted }

/-- Two exchanges that differ in the mark only: the first has it, the second has not. -/
def Exchange.Apart (x y : Exchange) : Prop :=
  x.transacted = true ∧ y = x.withTransacted false

theorem Exchange.apart_withTransacted (x : Exchange) :
    (x.withTransacted true).Apart (x.withTransacted false) := ⟨rfl, rfl⟩

theorem Exchange.indistinct_apart : Indistinct Exchange.Apart where
  id apart := (congrArg Exchange.id apart.2).symm
  failure apart := (congrArg Exchange.failure apart.2).symm
  redelivery apart := (congrArg Exchange.redelivery apart.2).symm
  update {x y} apart failure redelivery := by
    obtain ⟨marked, rfl⟩ := apart
    exact ⟨marked, rfl⟩

namespace Note

variable {Work : Type}

/-- The note without marks of transactions, and without saying what was pinned. -/
def blurred : Note Work → Note Work
  | performed work _ before after =>
    performed work false (before.withTransacted false) (after.map (·.withTransacted false))
  | entered handler x => entered handler (x.withTransacted false)
  | other => other

/-- The work of a leaf that ran. -/
def work? : Note Work → Option Work
  | performed work _ _ _ => some work
  | _ => none

theorem counter?_blurred (note : Note Work) : note.blurred.counter? = note.counter? := by
  cases note <;> rfl

theorem time?_blurred (note : Note Work) : note.blurred.time? = note.time? := by
  cases note <;> rfl

theorem work?_blurred (note : Note Work) : note.blurred.work? = note.work? := by
  cases note <;> rfl

end Note

variable {World Work : Type}

/-- The works of the leaves that ran, the latest first. -/
def Course.works (course : Course World Work) : List Work := course.journal.filterMap Note.work?

/-- What is read off blurred notes is read off a journal. -/
theorem filterMap_blurred {Value : Type} {read : Note Work → Option Value}
    (blind : ∀ note, read note.blurred = read note) (journal : List (Note Work)) :
    (journal.map Note.blurred).filterMap read = journal.filterMap read := by
  rw [List.filterMap_map]
  exact congrArg (List.filterMap · journal) (funext blind)

/-! ## Blind leaves -/

/-- Leaves with works of some kind neither read nor change the mark of a transaction and do not look
whether they are pinned. The relation says which surroundings nobody tells apart. -/
structure Blind (surroundings : Surroundings World Work) (same : World → World → Prop)
    (works : Work → Prop) : Prop where
  perform : ∀ {work}, works work → ∀ {w v}, same w v → ∀ (p q t u : Bool) (x : Exchange),
    ∃ result : Except Panic Exchange,
      (surroundings.perform work p (x.withTransacted t) w).1 = result.map (·.withTransacted t) ∧
      (surroundings.perform work q (x.withTransacted u) v).1 = result.map (·.withTransacted u) ∧
      same (surroundings.perform work p (x.withTransacted t) w).2
        (surroundings.perform work q (x.withTransacted u) v).2
  enter : ∀ {w v} (handler : HandlerId), same w v →
    same (surroundings.enter handler w) (surroundings.enter handler v)
  leave : ∀ {w v} (handler : HandlerId), same w v →
    same (surroundings.leave handler w) (surroundings.leave handler v)
  signalled : ∀ {w v} (handler : HandlerId), same w v →
    surroundings.signalled handler w = surroundings.signalled handler v
  scale : ∀ {w v}, same w v → surroundings.scale w = surroundings.scale v
  pause : ∀ {w v} (handler : HandlerId) (time : Duration), same w v →
    (surroundings.pause handler time w).1 = (surroundings.pause handler time v).1 ∧
      same (surroundings.pause handler time w).2 (surroundings.pause handler time v).2
  clock : ∀ {w v}, same w v → surroundings.clock w = surroundings.clock v

/-- In equal surroundings only the leaves have to be looked at. -/
theorem blind_of_leaves {surroundings : Surroundings World Work} {works : Work → Prop}
    (each : ∀ work, works work → ∀ (pinned transacted : Bool) (x : Exchange) (world : World),
      surroundings.perform work pinned (x.withTransacted transacted) world =
        ((surroundings.perform work false x world).1.map (·.withTransacted transacted),
          (surroundings.perform work false x world).2)) :
    Blind surroundings Eq works where
  perform {work} kind {w v} same p q t u x := by
    cases same
    refine ⟨(surroundings.perform work false x w).1, ?_, ?_, ?_⟩
    · rw [each work kind]
    · rw [each work kind]
    · rw [each work kind, each work kind]
  enter handler same := by rw [same]
  leave handler same := by rw [same]
  signalled handler same := by rw [same]
  scale same := by rw [same]
  pause handler time same := by
    rw [same]
    exact ⟨rfl, rfl⟩
  clock same := by rw [same]

/-! ## Runs -/

section Runs

variable {surroundings : Surroundings World Work} {same : World → World → Prop}
  {works : Work → Prop}

/-- The same has happened in both courses, up to the mark. -/
def Course.Agree (same : World → World → Prop) (c d : Course World Work) : Prop :=
  same c.world d.world ∧ c.journal.map Note.blurred = d.journal.map Note.blurred

theorem Course.Agree.note {c d : Course World Work} (agree : c.Agree same d) {m n : Note Work}
    (alike : m.blurred = n.blurred) : (c.note m).Agree same (d.note n) := by
  refine ⟨agree.1, ?_⟩
  change m.blurred :: c.journal.map Note.blurred = n.blurred :: d.journal.map Note.blurred
  rw [alike, agree.2]

theorem Blind.lockstep (blind : Blind surroundings same works) :
    Lockstep surroundings surroundings Exchange.Apart (Course.Agree same) where
  enter {c d x y} handler agree apart := by
    have entered : (c.change (surroundings.enter handler)).Agree same
        (d.change (surroundings.enter handler)) := ⟨blind.enter handler agree.1, agree.2⟩
    refine entered.note ?_
    obtain ⟨_, rfl⟩ := apart
    rfl
  guarded handler event agree := agree.note rfl
  signalled handler agree := blind.signalled handler agree.1
  scale agree := blind.scale agree.1
  pause handler time agree :=
    ⟨(blind.pause handler time agree.1).1, (blind.pause handler time agree.1).2, agree.2⟩
  leave {c d} handler agree := by
    have left : (c.change (surroundings.leave handler)).Agree same
        (d.change (surroundings.leave handler)) := ⟨blind.leave handler agree.1, agree.2⟩
    exact left.note rfl

theorem leaf_agrees (blind : Blind surroundings same works) {work : Work} (kind : works work)
    (p q : Bool) :
    Corresponds Exchange.Apart (Course.Agree same) (Behaviour.leaf surroundings work p)
      (Behaviour.leaf surroundings work q) := by
  intro x y c d apart agree
  obtain ⟨marked, rfl⟩ := apart
  have marks : x = x.withTransacted true := by
    rw [← marked]
    rfl
  obtain ⟨result, first, second, worlds⟩ := blind.perform kind agree.1 p q true false x
  rw [← marks] at first worlds
  simp only [Behaviour.leaf, first, second]
  have between : ({ c with world := (surroundings.perform work p x c.world).2 } :
      Course World Work).Agree same
        { d with world := (surroundings.perform work q (x.withTransacted false) d.world).2 } :=
    ⟨worlds, agree.2⟩
  cases result with
  | ok after => exact ⟨.finished (Exchange.apart_withTransacted after), between.note rfl⟩
  | error panic => exact ⟨.panicked panic, between.note rfl⟩

/-- **A pinned run of a transacted exchange goes like a run of the exchange without the mark.** -/
theorem run_agrees (blind : Blind surroundings same works) (bound : Nat) (q : Bool)
    (root : Step Work) (every : root.EveryWork works) :
    Corresponds Exchange.Apart (Course.Agree same) (root.run surroundings bound true)
      (root.run surroundings bound q) := by
  have inherited : Step.Inherited fun step : Step Work => step.EveryWork works →
      Corresponds Exchange.Apart (Course.Agree same) (step.run surroundings bound true)
        (step.run surroundings bound q) :=
    { leaf := fun _ _ work kind => leaf_agrees blind kind true q
      pipeline := fun name steps each every => by
        rw [Step.run_pipeline]
        refine Behaviour.sequence_corresponds Exchange.indistinct_apart fun step listed => ?_
        exact each step listed (Step.everyWork_pipeline.mp every step listed)
      guard := fun region handler inside paths every => by
        obtain ⟨here, there⟩ := Step.everyWork_guard.mp every
        have runs := Behaviour.guarded_corresponds Exchange.indistinct_apart blind.lockstep bound
          (inside here) ((there.and paths).imp fun _ both => both.2 both.1)
        -- The one is pinned already, the other has no mark: neither guard pins.
        intro x y c d apart agree
        have unmarked : y.transacted = false := by
          rw [apart.2]
          rfl
        change (Behaviour.guard surroundings bound _ _ true x c).1.Matches _
            (Behaviour.guard surroundings bound _ _ q y d).1 ∧
          Course.Agree same (Behaviour.guard surroundings bound _ _ true x c).2
            (Behaviour.guard surroundings bound _ _ q y d).2
        simp only [Behaviour.guard, unmarked, Bool.or_true, Bool.not_false, Bool.true_or, if_true]
        exact runs apart agree }
  exact inherited.holds root every

end Runs

/-! ## Deliveries -/

namespace Delivery

/-- Two deliveries that nobody but the threads can tell apart, the first of a transacted
exchange. -/
structure Agrees (same : World → World → Prop) (first second : Fate × Course World Work) :
    Prop where
  /-- They end with the same outcome and the same exchange up to the mark, or are both cut short. -/
  ends : (∃ x : Exchange, first.1 = .finished (x.withTransacted true) ∧
      second.1 = .finished (x.withTransacted false) ∧
      (x.withTransacted true).outcome = (x.withTransacted false).outcome) ∨
    first.1 = .unfinished ∧ second.1 = .unfinished
  /-- The same leaves have run, in the same order. -/
  works : first.2.works = second.2.works
  /-- The same has been counted. -/
  tally : first.2.tally = second.2.tally
  world : same first.2.world second.2.world

/-- A delivery closes the course of its root with the time that it took. -/
theorem deliver_closing {surroundings : Surroundings World Work} {bound : Nat} {root : Step Work}
    {pinned : Bool} {x : Exchange} {course later : Course World Work} {fate : Fate}
    (ran : root.run surroundings bound (pinned || x.transacted) x.beginDelivery course =
      (fate, later)) :
    deliver surroundings bound root pinned x course =
      (settle root pinned x fate,
        { later with
          journal := closing (Duration.ofNanos
            (surroundings.clock later.world - surroundings.clock course.world))
              (settle root pinned x fate) ++ later.journal }) := by
  simp only [deliver, runRoot_eq ran]
  cases settle root pinned x fate <;> rfl

/-- A composite root hands a panic back as a failure of the exchange that entered. -/
theorem settle_apart {root : Step Work} (composite : root.isImmediate = false) (p q : Bool)
    (x : Exchange) {first second : Fate} (fates : first.Matches Exchange.Apart second) :
    (settle root p (x.withTransacted true) first).Matches Exchange.Apart
        (settle root q (x.withTransacted false) second) ∧
      ∀ panic, settle root p (x.withTransacted true) first ≠ .panicked panic := by
  cases fates with
  | finished apart => exact ⟨.finished apart, fun _ => Fate.noConfusion⟩
  | unfinished => exact ⟨.unfinished, fun _ => Fate.noConfusion⟩
  | panicked panic =>
      simp only [settle, composite, Bool.false_and, Bool.false_eq_true, if_false]
      exact ⟨.finished ⟨rfl, rfl⟩, fun _ => Fate.noConfusion⟩

theorem closing_apart {first second : Fate} (fates : first.Matches Exchange.Apart second)
    (time : Duration) :
    (closing time first : List (Note Work)) = closing time second := by
  cases fates with
  | finished apart =>
      obtain ⟨_, rfl⟩ := apart
      rfl
  | panicked panic => rfl
  | unfinished => rfl

theorem agrees_of_agree {same : World → World → Prop} {first second : Fate × Course World Work}
    (fates : first.1.Matches Exchange.Apart second.1)
    (contained : ∀ panic, first.1 ≠ .panicked panic)
    (agree : first.2.Agree same second.2) : Agrees same first second where
  ends := by
    generalize first.1 = fate₁ at fates contained
    generalize second.1 = fate₂ at fates
    cases fates with
    | unfinished => exact .inr ⟨rfl, rfl⟩
    | panicked panic => exact absurd rfl (contained panic)
    | @finished x y apart =>
        obtain ⟨marked, rfl⟩ := apart
        have marks : x.withTransacted true = x := by
          rw [← marked]
          rfl
        exact .inl ⟨x, by rw [marks], rfl, rfl⟩
  works := by
    rw [Course.works, ← filterMap_blurred Note.work?_blurred, agree.2,
      filterMap_blurred Note.work?_blurred, Course.works]
  tally := by
    rw [Course.tally, ← filterMap_blurred Note.counter?_blurred,
      ← filterMap_blurred Note.time?_blurred, agree.2, filterMap_blurred Note.counter?_blurred,
      filterMap_blurred Note.time?_blurred, Course.tally]
  world := agree.1

/-- **Transacted and plain deliveries agree.** Whatever the composite tree of blind leaves, the
exchange, the surroundings and the threads of the two callers: the deliveries of the exchange with
and without the mark of a transaction run the same leaves in the same order, count the same, and end
with the same outcome and the same exchange up to the mark. -/
theorem transacted_agrees {surroundings : Surroundings World Work} {same : World → World → Prop}
    {works : Work → Prop} (blind : Blind surroundings same works) (bound : Nat) {root : Step Work}
    (composite : root.isImmediate = false) (every : root.EveryWork works) (p q : Bool)
    (x : Exchange) {w v : World} (level : same w v) :
    Agrees same
      (deliver surroundings bound root p (x.withTransacted true) (Course.start w))
      (deliver surroundings bound root q (x.withTransacted false) (Course.start v)) := by
  have entered : (x.beginDelivery.withTransacted true).Apart
      (x.beginDelivery.withTransacted false) :=
    Exchange.apart_withTransacted x.beginDelivery
  have started : (Course.start w : Course World Work).Agree same (Course.start v) := ⟨level, rfl⟩
  obtain ⟨fates, agree⟩ := run_agrees blind bound q root every entered started
  cases ran₁ : root.run surroundings bound (p || true) (x.beginDelivery.withTransacted true)
      (Course.start w) with
  | mk fate₁ later₁ =>
    cases ran₂ : root.run surroundings bound (q || false) (x.beginDelivery.withTransacted false)
        (Course.start v) with
    | mk fate₂ later₂ =>
      rw [← Bool.or_false q, ran₂] at fates agree
      have pinned : root.run surroundings bound true (x.beginDelivery.withTransacted true)
          (Course.start w) = (fate₁, later₁) := by rw [← ran₁, Bool.or_true]
      rw [pinned] at fates agree
      obtain ⟨settled, contained⟩ := settle_apart composite p q x fates
      have began : surroundings.clock (Course.start w : Course World Work).world =
        surroundings.clock (Course.start v : Course World Work).world := blind.clock level
      have ended : surroundings.clock later₁.world = surroundings.clock later₂.world :=
        blind.clock agree.1
      have closed₁ := deliver_closing (x := x.withTransacted true) ran₁
      have closed₂ := deliver_closing (x := x.withTransacted false) ran₂
      rw [closed₁, closed₂, began, ended]
      refine agrees_of_agree settled contained ⟨agree.1, ?_⟩
      simp only [List.map_append, agree.2, Course.start]
      rw [closing_apart settled]

/-- Leaves that fail when they first run, pass when they run again, and panic from then on. The
state counts the runs. -/
def stumbling : Surroundings Nat Unit :=
  { perform := fun _ _ x runs => match runs with
      | 0 => (.ok (x.withFailure (.step "io" "down")), 1)
      | 1 => (.ok x, 2)
      | _ => (.error (.text "boom"), runs + 1)
    enter := fun _ runs => runs, leave := fun _ runs => runs
    signalled := fun _ _ => false, scale := fun _ => default
    pause := fun _ _ runs => (false, runs), clock := id }

theorem stumbling_blind : Blind stumbling Eq fun _ => True := by
  refine blind_of_leaves fun work _ pinned transacted x runs => ?_
  match runs with
  | 0 => rfl
  | 1 => rfl
  | _ + 2 => rfl

/-- A guarded leaf and a plain one, in a guard. Both guards redeliver once. -/
def twoGuards : Step Unit :=
  let handler : Handler (Step Unit) :=
    { id := 0, policy := { Policy.standard with maxRedeliveries := 1 }, rules := [] }
  .guard (.pipeline "p" [.guard (.leaf "f" false ()) handler, .leaf "g" false ()]) handler

/-- The inner leaf runs twice and the outer one panics, with the mark and without it. -/
theorem transacted_agrees_twoGuards :
    Blind stumbling Eq (fun _ => True) ∧ twoGuards.isImmediate = false ∧
      (twoGuards.EveryWork fun _ => True) ∧
      Agrees Eq
        (deliver stumbling 3 twoGuards false ((default : Exchange).withTransacted true)
          (Course.start 0))
        (deliver stumbling 3 twoGuards false ((default : Exchange).withTransacted false)
          (Course.start 0)) ∧
      (deliver stumbling 3 twoGuards false ((default : Exchange).withTransacted true)
        (Course.start 0)).2.works = [(), (), ()] ∧
      (deliver stumbling 3 twoGuards false ((default : Exchange).withTransacted true)
        (Course.start 0)).2.tally.counted = [.exchangesFailed, .redeliveries] :=
  have every : twoGuards.EveryWork fun _ => True :=
    Step.everyWork_of_forall (fun _ => trivial) twoGuards
  ⟨stumbling_blind, rfl, every,
    transacted_agrees stumbling_blind 3 rfl every false false default rfl, rfl, rfl⟩

end Delivery

end Mediation
