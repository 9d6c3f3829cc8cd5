import Mediation.Proofs.Delivery.Containment

/-!
# Two runs side by side

Two runs of a tree of steps may differ in the flag that they run with, in their surroundings, or in
parts of the exchange that guards do not look at. They stay side by side as long as each leaf does:
pipelines (`Behaviour.sequence_corresponds`) and guarded runs (`Behaviour.guarded_corresponds`) take
the same way in both, whatever the leaves do. What this asks of the relation between the exchanges
is said in `Indistinct`, what it asks of the two surroundings in `Lockstep`. A guard decides from
the failure and the bookkeeping alone, so it decides the same for exchanges that it cannot tell
apart (`Guard.afterRegion_matches`).

Whether a guard pins its run depends on both exchanges and both flags, so that is left to whoever
compares two runs.
-/

set_option autoImplicit false

namespace Mediation

/-! ## Relations -/

/-- Two ends of a run that correspond. -/
inductive Fate.Matches (alike : Exchange → Exchange → Prop) : Fate → Fate → Prop
  | finished {x y : Exchange} (same : alike x y) : Matches alike (.finished x) (.finished y)
  | panicked (panic : Panic) : Matches alike (.panicked panic) (.panicked panic)
  | unfinished : Matches alike .unfinished .unfinished

theorem Fate.Matches.of_eq (fate : Fate) : fate.Matches Eq fate := by
  cases fate with
  | finished x => exact .finished rfl
  | panicked panic => exact .panicked panic
  | unfinished => exact .unfinished

theorem Fate.Matches.eq {first second : Fate} (fates : first.Matches Eq second) :
    first = second := by
  cases fates with
  | finished same => rw [same]
  | panicked panic => rfl
  | unfinished => rfl

/-- A relation between exchanges that differ in parts only that no guard looks at or changes. -/
structure Indistinct (alike : Exchange → Exchange → Prop) : Prop where
  id : ∀ {x y}, alike x y → x.id = y.id
  failure : ∀ {x y}, alike x y → x.failure = y.failure
  redelivery : ∀ {x y}, alike x y → x.redelivery = y.redelivery
  update : ∀ {x y}, alike x y → ∀ failure redelivery,
    alike { x with failure, redelivery } { y with failure, redelivery }

namespace Indistinct

variable {alike : Exchange → Exchange → Prop} {x y : Exchange}

theorem eq : Indistinct (Eq (α := Exchange)) where
  id same := congrArg Exchange.id same
  failure same := congrArg Exchange.failure same
  redelivery same := congrArg Exchange.redelivery same
  update {x y} same failure redelivery := by
    cases same
    rfl

theorem withFailure (indistinct : Indistinct alike) (same : alike x y) (failure : Failure) :
    alike (x.withFailure failure) (y.withFailure failure) := by
  have updated := indistinct.update same (some failure) x.redelivery
  have changed : y.withFailure failure =
      { y with failure := some failure, redelivery := x.redelivery } := by
    rw [indistinct.redelivery same]
    rfl
  rw [changed]
  exact updated

theorem withoutFailure (indistinct : Indistinct alike) (same : alike x y) :
    alike x.withoutFailure y.withoutFailure := by
  have updated := indistinct.update same none x.redelivery
  have changed : y.withoutFailure =
      { y with failure := none, redelivery := x.redelivery } := by
    rw [indistinct.redelivery same]
    rfl
  rw [changed]
  exact updated

/-- The bookkeeping may change in any way that depends on it alone. -/
theorem book (indistinct : Indistinct alike) (same : alike x y) (change : Redelivery → Redelivery) :
    alike { x with redelivery := change x.redelivery }
      { y with redelivery := change y.redelivery } := by
  have updated := indistinct.update same x.failure (change x.redelivery)
  have changed : ({ y with redelivery := change y.redelivery } : Exchange) =
      { y with failure := x.failure, redelivery := change x.redelivery } := by
    rw [indistinct.failure same, indistinct.redelivery same]
  rw [changed]
  exact updated

theorem isRollbackOnly (indistinct : Indistinct alike) (same : alike x y) :
    x.isRollbackOnly = y.isRollbackOnly :=
  congrArg Redelivery.rollbackOnly (indistinct.redelivery same)

theorem goesOn (indistinct : Indistinct alike) (same : alike x y) :
    Behaviour.goesOn x = Behaviour.goesOn y := by
  rw [Behaviour.goesOn, Behaviour.goesOn, Exchange.isFailed, Exchange.isFailed,
    indistinct.failure same, indistinct.isRollbackOnly same]

end Indistinct

/-! ## What guards decide -/

namespace Guard

variable {alike : Exchange → Exchange → Prop} {Path Other : Type} {x y : Exchange}

/-- The decision of a guard whose paths are something else. -/
def Next.map (change : Path → Other) : Next Path → Next Other
  | .leave x => .leave x
  | .redeliver x spacing => .redeliver x spacing
  | .follow x path => .follow x (change path)

/-- Two decisions that differ in the exchange only. -/
inductive Next.Matches (alike : Exchange → Exchange → Prop) : Next Path → Next Path → Prop
  | leave {x y : Exchange} (same : alike x y) : Matches alike (.leave x) (.leave y)
  | redeliver {x y : Exchange} (same : alike x y) (spacing : Spacing) :
      Matches alike (.redeliver x spacing) (.redeliver y spacing)
  | follow {x y : Exchange} (same : alike x y) (path : Path) :
      Matches alike (.follow x path) (.follow y path)

theorem dispose_matches (indistinct : Indistinct alike) (same : alike x y) (failure : Failure)
    (attempts : Attempts) (disposition : Disposition Path) :
    (dispose x failure attempts disposition).1.Matches alike
        (dispose y failure attempts disposition).1 ∧
      (dispose x failure attempts disposition).2 = (dispose y failure attempts disposition).2 := by
  have gaveUp : alike (giveUp x failure attempts) (giveUp y failure attempts) :=
    indistinct.withFailure same _
  cases disposition with
  | propagate => exact ⟨.leave gaveUp, rfl⟩
  | rollback => exact ⟨.leave gaveUp, rfl⟩
  | continued =>
      have marked : alike x.markContinued y.markContinued :=
        indistinct.book same fun redelivery => { redelivery with continued := true }
      exact ⟨.leave (indistinct.withoutFailure marked), rfl⟩
  | handled path =>
      have marked : alike x.markHandled y.markHandled :=
        indistinct.book same fun redelivery => { redelivery with handled := true }
      exact ⟨.follow (indistinct.withoutFailure marked) path, rfl⟩

theorem govern_matches (indistinct : Indistinct alike) (same : alike x y) (handler : Handler Path)
    (entry : Attempts) (failure : Failure) (rule : Option (Rule Path)) :
    (govern handler entry x failure rule).1.Matches alike (govern handler entry y failure rule).1 ∧
      (govern handler entry x failure rule).2 = (govern handler entry y failure rule).2 := by
  have counted : alike (x.recordAttempt failure) (y.recordAttempt failure) :=
    indistinct.book same fun redelivery => redelivery.recordAttempt failure
  have noted : alike (x.recordFailure failure) (y.recordFailure failure) :=
    indistinct.book same fun redelivery => redelivery.recordFailure failure
  simp only [govern, indistinct.redelivery same]
  split
  · rw [indistinct.redelivery counted]
    exact ⟨.redeliver counted _, rfl⟩
  · rw [indistinct.redelivery noted]
    exact dispose_matches indistinct noted failure _ _

/-- **A guard decides the same for exchanges that it cannot tell apart.** -/
theorem afterRegion_matches (indistinct : Indistinct alike) (same : alike x y)
    (handler : Handler Path) (entry : Attempts) :
    (afterRegion handler entry x).1.Matches alike (afterRegion handler entry y).1 ∧
      (afterRegion handler entry x).2 = (afterRegion handler entry y).2 := by
  have marked : alike x.markRollback y.markRollback :=
    indistinct.book same fun redelivery => { redelivery with rollbackOnly := true }
  simp only [afterRegion, indistinct.failure same, indistinct.isRollbackOnly same]
  cases y.failure with
  | none =>
      simp only
      split
      · exact ⟨.leave same, rfl⟩
      · exact ⟨.leave same, rfl⟩
  | some failure =>
      simp only
      split
      · exact ⟨.leave marked, rfl⟩
      · split
        · exact ⟨.leave marked, rfl⟩
        · exact govern_matches indistinct same handler entry failure _

theorem interrupt_matches (indistinct : Indistinct alike) (same : alike x y) (entry : Attempts) :
    alike (interrupt entry x).1 (interrupt entry y).1 ∧
      (interrupt entry x).2 = (interrupt entry y).2 := by
  have attempts : x.redelivery.attempts = y.redelivery.attempts :=
    congrArg Redelivery.attempts (indistinct.redelivery same)
  have said : interruption x (x.redelivery.attempts.since entry) =
      interruption y (y.redelivery.attempts.since entry) := by
    rw [interruption, interruption, attempts, indistinct.id same]
  refine ⟨?_, ?_⟩
  · rw [interrupt, interrupt, said]
    exact indistinct.withFailure same _
  · rw [interrupt, interrupt, attempts]

theorem afterPath_matches (indistinct : Indistinct alike) (same : alike x y) (entry : Attempts) :
    alike (afterPath entry x).1 (afterPath entry y).1 ∧
      (afterPath entry x).2 = (afterPath entry y).2 := by
  simp only [afterPath, indistinct.failure same, indistinct.redelivery same]
  cases y.failure with
  | none => exact ⟨same, rfl⟩
  | some failure =>
      simp only
      split
      · exact ⟨same, rfl⟩
      · exact ⟨indistinct.withFailure same _, rfl⟩

/-! ### Folded handlers -/

section Folded

variable {Work Value : Type} (algebra : Step.Algebra Work Value) (handler : Handler (Step Work))

theorem classify_foldHandler (failure : Failure) :
    (Step.foldHandler algebra handler).classify failure =
      (handler.classify failure).map (Step.foldRule algebra) := by
  have applies : ((fun rule : Rule Value => rule.applies failure) ∘ Step.foldRule algebra) =
      fun rule => rule.applies failure := by
    funext rule
    cases rule
    rfl
  rw [Handler.classify, Step.foldHandler_eq, List.find?_map, applies, Handler.classify]

theorem rollsBack_foldRule (rule : Option (Rule (Step Work))) :
    Handler.rollsBack (rule.map (Step.foldRule algebra)) = Handler.rollsBack rule := by
  cases rule with
  | none => rfl
  | some rule =>
      obtain ⟨name, applies, disposition, policy, redeliverable⟩ := rule
      cases disposition <;> rfl

theorem dispose_foldRule (x : Exchange) (failure : Failure) (attempts : Attempts)
    (rule : Option (Rule (Step Work))) :
    dispose x failure attempts
        (((rule.map (Step.foldRule algebra)).map (·.disposition)).getD .propagate) =
      ((dispose x failure attempts ((rule.map (·.disposition)).getD .propagate)).1.map
          (Step.fold algebra),
        (dispose x failure attempts ((rule.map (·.disposition)).getD .propagate)).2) := by
  cases rule with
  | none => rfl
  | some rule =>
      obtain ⟨name, applies, disposition, policy, redeliverable⟩ := rule
      cases disposition <;> rfl

theorem govern_foldRule (entry : Attempts) (x : Exchange) (failure : Failure)
    (rule : Option (Rule (Step Work))) :
    govern (Step.foldHandler algebra handler) entry x failure (rule.map (Step.foldRule algebra)) =
      ((govern handler entry x failure rule).1.map (Step.fold algebra),
        (govern handler entry x failure rule).2) := by
  have policy : (Step.foldHandler algebra handler).policyFor (rule.map (Step.foldRule algebra)) =
      handler.policyFor rule := by
    rw [Step.foldHandler_eq]
    obtain _ | ⟨name, applies, disposition, policy, redeliverable⟩ := rule
    · rfl
    · rfl
  have redeliverable : Handler.redeliverable (rule.map (Step.foldRule algebra)) =
      Handler.redeliverable rule := by
    obtain _ | ⟨name, applies, disposition, policy, redeliverable⟩ := rule
    · rfl
    · rfl
  simp only [govern, policy, redeliverable]
  split
  · rfl
  · exact dispose_foldRule algebra _ failure _ rule

/-- Whatever the paths stand for, a guard decides the same. -/
theorem afterRegion_foldHandler (entry : Attempts) (x : Exchange) :
    afterRegion (Step.foldHandler algebra handler) entry x =
      ((afterRegion handler entry x).1.map (Step.fold algebra),
        (afterRegion handler entry x).2) := by
  simp only [afterRegion]
  cases x.failure with
  | none =>
      simp only
      split
      · rfl
      · rfl
  | some failure =>
      simp only [classify_foldHandler, rollsBack_foldRule]
      split
      · rfl
      · split
        · rfl
        · exact govern_foldRule algebra handler entry x failure _

end Folded

/-- A path that a guard follows stands in its rules. -/
theorem follows_listed {handler : Handler Path} {entry : Attempts} {path : Path}
    (follows : (afterRegion handler entry x).1 = .follow y path) :
    ∃ rule ∈ handler.rules, rule.disposition = .handled path := by
  obtain ⟨_, _, decides⟩ | ⟨_, _, _, decides, listed⟩ | ⟨_, _, _, _, decides⟩ :=
    Behaviour.afterRegion_cases handler entry x
  · rw [decides] at follows
    nomatch follows
  · rw [decides] at follows
    obtain ⟨_, rfl⟩ := Next.follow.inj follows
    exact listed
  · rw [decides] at follows
    nomatch follows

end Guard

/-! ## Surroundings side by side -/

section Sides

variable {World₁ World₂ Work : Type}

/-- Two courses stay level as long as the same things happen in both. -/
structure Lockstep (first : Surroundings World₁ Work) (second : Surroundings World₂ Work)
    (alike : Exchange → Exchange → Prop)
    (level : Course World₁ Work → Course World₂ Work → Prop) : Prop where
  enter : ∀ {c d x y} (handler : HandlerId), level c d → alike x y →
    level ((c.change (first.enter handler)).note (.entered handler x))
      ((d.change (second.enter handler)).note (.entered handler y))
  guarded : ∀ {c d} (handler : HandlerId) (event : Guard.Event), level c d →
    level (c.note (.guarded handler event)) (d.note (.guarded handler event))
  signalled : ∀ {c d} (handler : HandlerId), level c d →
    first.signalled handler c.world = second.signalled handler d.world
  scale : ∀ {c d}, level c d → first.scale c.world = second.scale d.world
  pause : ∀ {c d} (handler : HandlerId) (time : Duration), level c d →
    (first.pause handler time c.world).1 = (second.pause handler time d.world).1 ∧
      level { c with world := (first.pause handler time c.world).2 }
        { d with world := (second.pause handler time d.world).2 }
  leave : ∀ {c d} (handler : HandlerId), level c d →
    level ((c.change (first.leave handler)).note (.left handler))
      ((d.change (second.leave handler)).note (.left handler))

/-- Two runs that begin alike and level end so. -/
def Corresponds (alike : Exchange → Exchange → Prop)
    (level : Course World₁ Work → Course World₂ Work → Prop)
    (run₁ : Exchange → Course World₁ Work → Fate × Course World₁ Work)
    (run₂ : Exchange → Course World₂ Work → Fate × Course World₂ Work) : Prop :=
  ∀ ⦃x y c d⦄, alike x y → level c d →
    (run₁ x c).1.Matches alike (run₂ y d).1 ∧ level (run₁ x c).2 (run₂ y d).2

namespace Behaviour

variable {first : Surroundings World₁ Work} {second : Surroundings World₂ Work}
  {alike : Exchange → Exchange → Prop}
  {level : Course World₁ Work → Course World₂ Work → Prop} {p q : Bool}

/-! ## Pipelines -/

theorem sequence_corresponds (indistinct : Indistinct alike) {Item : Type}
    {left : Item → Behaviour World₁ Work} {right : Item → Behaviour World₂ Work}
    {items : List Item}
    (each : ∀ item ∈ items, Corresponds alike level (left item p) (right item q)) :
    Corresponds alike level (sequence (items.map left) p) (sequence (items.map right) q) := by
  induction items with
  | nil => exact fun x y c d same even => ⟨.finished same, even⟩
  | cons item rest ih =>
      intro x y c d same even
      have both := each item List.mem_cons_self same even
      have later := ih fun other member => each other (List.mem_cons_of_mem _ member)
      simp only [List.map_cons, sequence, indistinct.goesOn same]
      split
      · generalize left item p x c = ended₁ at both
        generalize right item q y d = ended₂ at both
        obtain ⟨fate₁, between₁⟩ := ended₁
        obtain ⟨fate₂, between₂⟩ := ended₂
        obtain ⟨fates, between⟩ := both
        cases fates with
        | finished between' => exact later between' between
        | panicked panic => exact ⟨.panicked panic, between⟩
        | unfinished => exact ⟨.unfinished, between⟩
      · exact ⟨.finished same, even⟩

/-! ## Guards -/

theorem noteEvent_level (lockstep : Lockstep first second alike level) {c : Course World₁ Work}
    {d : Course World₂ Work} (even : level c d) (handler : HandlerId)
    (event : Option Guard.Event) :
    level (c.noteEvent handler event) (d.noteEvent handler event) := by
  cases event with
  | none => exact even
  | some event => exact lockstep.guarded handler event even

theorem delay_level (lockstep : Lockstep first second alike level) {c : Course World₁ Work}
    {d : Course World₂ Work} (even : level c d) (handler : HandlerId) (spacing : Spacing) :
    (delay first handler spacing c).1 = (delay second handler spacing d).1 ∧
      level (delay first handler spacing c).2 (delay second handler spacing d).2 := by
  simp only [delay, lockstep.signalled handler even, lockstep.scale even]
  split
  · exact ⟨rfl, even⟩
  · split
    · exact ⟨rfl, even⟩
    · exact lockstep.pause handler _ even

variable {algebra₁ : Step.Algebra Work (Behaviour World₁ Work)}
  {algebra₂ : Step.Algebra Work (Behaviour World₂ Work)} {handler : Handler (Step Work)}
  {region₁ : Behaviour World₁ Work} {region₂ : Behaviour World₂ Work}

theorem rounds_corresponds (indistinct : Indistinct alike)
    (lockstep : Lockstep first second alike level)
    (inside : Corresponds alike level (region₁ p) (region₂ q))
    (paths : handler.PathsHave fun path =>
      Corresponds alike level (path.fold algebra₁ p) (path.fold algebra₂ q))
    (entry : Attempts) (fuel : Nat) :
    Corresponds alike level
      (rounds first (Step.foldHandler algebra₁ handler) region₁ entry p fuel)
      (rounds second (Step.foldHandler algebra₂ handler) region₂ entry q fuel) := by
  have id₁ : (Step.foldHandler algebra₁ handler).id = handler.id := by rw [Step.foldHandler_eq]
  have id₂ : (Step.foldHandler algebra₂ handler).id = handler.id := by rw [Step.foldHandler_eq]
  induction fuel with
  | zero => exact fun x y c d same even => ⟨.unfinished, even⟩
  | succ fuel ih =>
      intro x y c d same even
      have ran := inside same even
      simp only [rounds, Guard.afterRegion_foldHandler, id₁, id₂]
      generalize region₁ p x c = ended₁ at ran
      generalize region₂ q y d = ended₂ at ran
      obtain ⟨fate₁, between₁⟩ := ended₁
      obtain ⟨fate₂, between₂⟩ := ended₂
      obtain ⟨fates, between⟩ := ran
      cases fates with
      | panicked panic => exact ⟨.panicked panic, between⟩
      | unfinished => exact ⟨.unfinished, between⟩
      | @finished x' y' after =>
          -- Both guards decide the same, and tell so.
          obtain ⟨decides, tells⟩ := Guard.afterRegion_matches indistinct after handler entry
          have listed : ∀ z path, (Guard.afterRegion handler entry x').1 = .follow z path →
              ∃ rule ∈ handler.rules, rule.disposition = .handled path :=
            fun _ _ follows => Guard.follows_listed follows
          simp only [← tells]
          have told := noteEvent_level lockstep between handler.id
            (Guard.afterRegion handler entry x').2
          generalize (Guard.afterRegion handler entry x').1 = next₁ at decides listed
          generalize (Guard.afterRegion handler entry y').1 = next₂ at decides
          cases decides with
          | leave left => exact ⟨.finished left, told⟩
          | follow handed path =>
              obtain ⟨rule, inRules, handled⟩ := listed _ path rfl
              have took := paths rule inRules path handled handed told
              simp only [Guard.Next.map]
              generalize path.fold algebra₁ p _ _ = ended₁ at took
              generalize path.fold algebra₂ q _ _ = ended₂ at took
              obtain ⟨fate₁, behind₁⟩ := ended₁
              obtain ⟨fate₂, behind₂⟩ := ended₂
              obtain ⟨fates, behind⟩ := took
              cases fates with
              | panicked panic => exact ⟨.panicked panic, behind⟩
              | unfinished => exact ⟨.unfinished, behind⟩
              | finished outcome =>
                  obtain ⟨left, event⟩ := Guard.afterPath_matches indistinct outcome entry
                  simp only [← event]
                  exact ⟨.finished left, noteEvent_level lockstep behind _ _⟩
          | redeliver counted spacing =>
              simp only [Guard.Next.map]
              obtain ⟨answers, waited⟩ := delay_level lockstep told handler.id spacing
              simp only [← answers]
              split
              · obtain ⟨left, event⟩ := Guard.interrupt_matches indistinct counted entry
                simp only [← event]
                exact ⟨.finished left, noteEvent_level lockstep waited _ _⟩
              · exact ih (indistinct.withoutFailure counted) waited

/-- **Guarded runs go the same way** if their regions and paths do. -/
theorem guarded_corresponds (indistinct : Indistinct alike)
    (lockstep : Lockstep first second alike level) (bound : Nat)
    (inside : Corresponds alike level (region₁ p) (region₂ q))
    (paths : handler.PathsHave fun path =>
      Corresponds alike level (path.fold algebra₁ p) (path.fold algebra₂ q)) :
    Corresponds alike level
      (guarded first bound (Step.foldHandler algebra₁ handler) region₁ p)
      (guarded second bound (Step.foldHandler algebra₂ handler) region₂ q) := by
  have id₁ : (Step.foldHandler algebra₁ handler).id = handler.id := by rw [Step.foldHandler_eq]
  have id₂ : (Step.foldHandler algebra₂ handler).id = handler.id := by rw [Step.foldHandler_eq]
  intro x y c d same even
  have entered := lockstep.enter handler.id even same
  have ran := rounds_corresponds indistinct lockstep inside paths x.redelivery.attempts bound same
    entered
  simp only [guarded, id₁, id₂, ← indistinct.redelivery same]
  exact ⟨ran.1, lockstep.leave handler.id ran.2⟩

end Behaviour

end Sides

end Mediation
