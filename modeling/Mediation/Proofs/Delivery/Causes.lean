import Mediation.Proofs.Delivery.Chronicles

/-!
# What is behind a failure

Guards clear the failures of their regions, remember them, wrap them once they give up, and put a
failure on the exchange themselves when a handler shuts down. The journal says which failure was put
on the exchange last, by a leaf or by an interruption (`lastPut`). Whatever the guards made of it in
between, a delivery fails with that one or with wrappers around it (`Delivery.cause_kept`).
-/

set_option autoImplicit false

namespace Mediation

/-! ## Wrapped failures -/

namespace Failure

/-- A failure is another one in any number of wrappers of given-up redeliveries. -/
inductive Causes (cause : Failure) : Failure → Prop
  | itself : Causes cause cause
  | wrapped (attempts : Attempts) {failure : Failure} :
      Causes cause failure → Causes cause (.exhausted attempts failure)

/-- Wrapping keeps the root. -/
theorem Causes.root_eq {cause failure : Failure} (causes : cause.Causes failure) :
    failure.root = cause.root := by
  induction causes with
  | itself => rfl
  | wrapped attempts _ ih => exact ih

theorem root_of_not_isExhausted {failure : Failure} (plain : failure.isExhausted = false) :
    failure.root = failure := by
  cases failure with
  | exhausted attempts cause => exact absurd plain.symm Bool.false_ne_true
  | _ => rfl

theorem root_root (failure : Failure) : failure.root.root = failure.root :=
  root_of_not_isExhausted failure.isExhausted_root

/-- The root is behind every failure. -/
theorem causes_root (failure : Failure) : failure.root.Causes failure := by
  induction failure with
  | exhausted attempts cause ih => exact .wrapped attempts ih
  | _ => exact .itself

end Failure

/-! ## What a journal tells of failures -/

section Journals

variable {Work : Type}

/-- The id of the exchange, behind the leaves that have run. -/
def idAfter (id : String) : List (Note Work) → String
  | [] => id
  | .performed _ _ _ (.ok after) :: _ => after.id
  | _ :: earlier => idAfter id earlier

/-- The failure that an entry puts on an exchange of this id: that of a leaf, or an interruption. -/
def Note.put? (id : String) : Note Work → Option Failure
  | performed _ _ _ (.ok after) => after.failure
  | guarded _ (.interrupted attempt) =>
    some (Guard.interruption (Exchange.receive id Message.empty) attempt)
  | _ => none

/-- The failure that was put on the exchange last. -/
def lastPut (id : String) : List (Note Work) → Option Failure
  | [] => none
  | note :: earlier => (note.put? (idAfter id earlier)).or (lastPut id earlier)

theorem idAfter_append (id : String) (later earlier : List (Note Work)) :
    idAfter id (later ++ earlier) = idAfter (idAfter id earlier) later := by
  induction later with
  | nil => rfl
  | cons note later ih =>
      cases note with
      | performed work pinned before after =>
          cases after with
          | ok after => rfl
          | error panic => exact ih
      | _ => exact ih

theorem lastPut_append (id : String) (later earlier : List (Note Work)) :
    lastPut id (later ++ earlier) =
      (lastPut (idAfter id earlier) later).or (lastPut id earlier) := by
  induction later with
  | nil => rfl
  | cons note later ih =>
      rw [List.cons_append, lastPut, lastPut, ih, idAfter_append, Option.or_assoc]

/-- A leaf found no failure on its exchange. -/
def Note.FoundNone : Note Work → Prop
  | performed _ _ before _ => before.failure = none
  | _ => True

/-- The failure of the exchange, if there is one, comes from the one that was put on it last. -/
def Stems (id : String) (y : Exchange) (notes : List (Note Work)) : Prop :=
  y.id = idAfter id notes ∧ ∀ failure, y.failure = some failure →
    ∃ cause, lastPut id notes = some cause ∧ cause.Causes failure

/-- What a run of an exchange without a failure does with failures. -/
structure Caused (x : Exchange) (fate : Fate) (notes : List (Note Work)) : Prop where
  found : ∀ note ∈ notes, note.FoundNone
  panicked : ∀ panic, fate = .panicked panic → Panicked notes panic
  stems : Calm notes → ∀ y, fate = .finished y → Stems x.id y notes

variable {x y z : Exchange} {fate : Fate} {note : Note Work}
  {notes later earlier : List (Note Work)} {id : String}

theorem stems_clear (named : y.id = idAfter id notes) (clear : y.failure = none) :
    Stems id y notes :=
  ⟨named, fun failure failed => by simp [clear] at failed⟩

/-- Whatever a guard makes of an exchange, its failure stems from the one put last. -/
theorem Stems.moves {Path : Type} {handler : Handler Path} {entry : Attempts}
    {events : List Guard.Event} (stems : Stems id y notes)
    (move : Guard.Moves handler entry y z events) :
    Stems id z (events.map (.guarded handler.id) ++ notes) := by
  obtain ⟨named, caused⟩ := stems
  -- one more wrapper around the failure of the exchange
  have wraps : ∀ {failure : Failure} (attempts : Attempts), y.failure = some failure →
      ∀ given, (Guard.giveUp y failure attempts).failure = some given →
        ∃ cause, lastPut id notes = some cause ∧ cause.Causes given := by
    intro failure attempts failed given same
    obtain ⟨cause, put, causes⟩ := caused failure failed
    obtain rfl : .exhausted attempts failure = given := Option.some.inj same
    exact ⟨cause, put, .wrapped attempts causes⟩
  cases move with
  | pass _ _ => exact ⟨named, caused⟩
  | rollBack _ => exact ⟨named, caused⟩
  | redeliver spacing retries => exact stems_clear named rfl
  | interrupt spacing retries =>
      refine ⟨named, fun given same => ⟨given, ?_, .itself⟩⟩
      rw [← same]
      exact congrArg (fun id => some (Guard.interruption (.receive id .empty) _)) named.symm
  | follow settles ruling => exact stems_clear named rfl
  | passOver settles ruling => exact stems_clear named rfl
  | giveUp settles ruling => exact ⟨named, wraps _ settles.failed⟩
  | passOn _ => exact ⟨named, caused⟩
  | wrap failed _ _ => exact ⟨named, wraps _ failed⟩

theorem foundNone_guarded (handler : HandlerId) (events : List Guard.Event) :
    ∀ note ∈ (events.map (Note.guarded handler) : List (Note Work)), note.FoundNone := by
  intro note member
  obtain ⟨event, _, rfl⟩ := List.mem_map.mp member
  trivial

/-- One run follows another. -/
theorem Caused.append (first : Caused x (.finished y) earlier) (second : Caused y fate later) :
    Caused x fate (later ++ earlier) where
  found := List.forall_mem_append.mpr ⟨second.found, first.found⟩
  panicked panic same := panicked_append.mpr (.inl (second.panicked panic same))
  stems calm z same := by
    obtain ⟨calmLater, calmEarlier⟩ := calm_append.mp calm
    obtain ⟨named, _⟩ := first.stems calmEarlier y rfl
    obtain ⟨namedSo, caused⟩ := second.stems calmLater z same
    rw [named] at namedSo caused
    refine ⟨by rw [namedSo, idAfter_append], fun failure failed => ?_⟩
    obtain ⟨cause, put, causes⟩ := caused failure failed
    exact ⟨cause, by rw [lastPut_append, put, Option.some_or], causes⟩

/-- An entry closes a run that puts no failure on the exchange. -/
theorem Caused.close (caused : Caused x fate notes) (found : note.FoundNone)
    (named : idAfter x.id (note :: notes) = idAfter x.id notes)
    (puts : lastPut x.id (note :: notes) = lastPut x.id notes) :
    Caused x fate (note :: notes) where
  found := List.forall_mem_cons.mpr ⟨found, caused.found⟩
  panicked panic same := panicked_cons.mpr (.inr (caused.panicked panic same))
  stems calm y same := by
    rw [Stems, named, puts]
    exact caused.stems (calm_cons.mp calm).2 y same

/-- Of a run that has panicked nothing more is told. -/
theorem Caused.contained {panic : Panic} (caused : Caused x (.panicked panic) notes)
    (failure : Failure) : Caused x (.finished (x.withFailure failure)) notes where
  found := caused.found
  panicked := by simp
  stems calm := absurd (caused.panicked panic rfl) (calm.not_panicked panic)

/-- Where nothing has run, the exchange is as it came. -/
theorem caused_unchanged (clear : x.failure = none) (found : ∀ note ∈ notes, note.FoundNone)
    (named : x.id = idAfter x.id notes) : Caused x (.finished x) notes where
  found := found
  panicked := by simp
  stems _ y same := by
    obtain rfl := Fate.finished.inj same
    exact stems_clear named clear

/-- **Runs keep the cause** of a failure. -/
theorem chronicle_caused :
    Chronicle fun x fate (notes : List (Note Work)) => x.failure = none → Caused x fate notes where
  idle x clear := caused_unchanged clear (by simp) rfl
  cut x _ := { found := by simp, panicked := by simp, stems := by simp }
  leaf work pinned x after clear := by
    refine ⟨List.forall_mem_singleton.mpr clear, fun panic same => ?_, fun calm y same => ?_⟩
    · cases after with
      | ok after => exact Fate.noConfusion same
      | error first =>
          obtain rfl := Fate.panicked.inj same
          exact ⟨_, List.mem_singleton_self _, rfl⟩
    · cases after with
      | error panic => exact Fate.noConfusion same
      | ok after =>
          obtain rfl := Fate.finished.inj same
          refine ⟨rfl, fun failure failed => ⟨failure, ?_, .itself⟩⟩
          exact (Option.or_none (o := after.failure)).trans failed
  follows {x y fate later earlier} first on second clear := by
    have unfailed : y.failure = none := by
      simp only [Behaviour.goesOn, Exchange.isFailed, Bool.not_or, Bool.and_eq_true] at on
      simpa using on.1
    exact (first clear).append (second unfailed)
  moves {Path handler entry x y z events notes} first move clear := by
    have caused := first clear
    refine ⟨List.forall_mem_append.mpr ⟨foundNone_guarded _ _, caused.found⟩, by simp, ?_⟩
    intro calm w same
    obtain rfl := Fate.finished.inj same
    exact (caused.stems (calm_append.mp calm).2 y rfl).moves move
  encloses {x fate notes} handler inside clear := by
    have entering : Caused x (.finished x) [(.entered handler x : Note Work)] :=
      caused_unchanged clear (List.forall_mem_singleton.mpr trivial) rfl
    exact (entering.append (inside clear)).close trivial rfl rfl
  holds held clear := (held clear).contained _

theorem closes_caused :
    Chronicle.Closes fun x fate (notes : List (Note Work)) =>
      x.failure = none → Caused x fate notes where
  contains failure held clear := (held clear).contained failure
  delivered _ _ told clear := (told clear).close trivial rfl rfl

end Journals

/-! ## Deliveries -/

namespace Delivery

variable {World Work : Type}

/-- What a delivery did with failures. -/
structure KeepsCause (id : String) (fate : Fate) (notes : List (Note Work)) : Prop where
  /-- A leaf runs on no exchange that has failed, so it put any failure there that is behind it. -/
  found : ∀ note ∈ notes, note.FoundNone
  /-- A failure of the delivery is the one that was put last, or wraps it. -/
  caused : Calm notes → ∀ y failure, fate = .finished y → y.failure = some failure →
    ∃ cause, lastPut id notes = some cause ∧ cause.Causes failure ∧ failure.root = cause.root

/-- **Guards wrap a failure, but do not lose its cause.** Whatever the tree of steps and the
surroundings: if an exchange enters a delivery without a failure, no leaf panics, and the delivery
fails, then its failure is, perhaps wrapped, the last one that a leaf or an interruption put on the
exchange, so both have the same root. A root is no wrapper, and its own root. -/
theorem cause_kept (surroundings : Surroundings World Work) (bound : Nat) (root : Step Work)
    (pinned : Bool) (x : Exchange) (course : Course World Work) (unfailed : x.failure = none) :
    (∃ notes, (deliver surroundings bound root pinned x course).2.journal =
        notes ++ course.journal ∧
      KeepsCause x.id (deliver surroundings bound root pinned x course).1 notes) ∧
    ∀ failure : Failure, failure.root.isExhausted = false ∧
      failure.root.root = failure.root ∧ failure.root.Causes failure := by
  refine ⟨?_, fun failure => ⟨failure.isExhausted_root, failure.root_root, failure.causes_root⟩⟩
  obtain ⟨notes, journal, told⟩ :=
    chronicle_caused.deliver_tells closes_caused surroundings bound root pinned x course
  have kept := told unfailed
  refine ⟨notes, journal, kept.found, fun calm y failure finished failed => ?_⟩
  obtain ⟨cause, put, causes⟩ := (kept.stems calm y finished).2 failure failed
  exact ⟨cause, put, causes, causes.root_eq⟩

/-! ### A delivery that is interrupted -/

/-- Every leaf fails, and the first handler shuts down. -/
def shuttingDown : Surroundings Unit Unit where
  perform := fun _ _ x world => (.ok (x.withFailure (.step "io" "down")), world)
  enter := fun _ world => world
  leave := fun _ world => world
  signalled := fun handler _ => handler == 0
  scale := fun _ => default
  pause := fun _ _ world => (false, world)
  clock := fun _ => 0

/-- A handler that redelivers once and has no rules. -/
def retriesOnce (id : HandlerId) : Handler (Step Unit) :=
  { id, policy := { Policy.standard with maxRedeliveries := 1 }, rules := [] }

/-- A leaf under two guards. -/
def guardedTwice : Step Unit :=
  .guard (.guard (.leaf "f" false ()) (retriesOnce 0)) (retriesOnce 1)

theorem cause_kept_shuttingDown : (default : Exchange).failure = none ∧
    (∃ notes, (deliver shuttingDown 3 guardedTwice false default (Course.start ())).2.journal =
        notes ++ [] ∧
      KeepsCause "" (deliver shuttingDown 3 guardedTwice false default (Course.start ())).1 notes) ∧
    ∀ failure : Failure, failure.root.isExhausted = false ∧
      failure.root.root = failure.root ∧ failure.root.Causes failure :=
  ⟨rfl, cause_kept shuttingDown 3 guardedTwice false default (Course.start ()) rfl⟩

/-- The outer guard wraps the interruption, and the failure of the leaf is gone. -/
example :
    let ended := deliver shuttingDown 3 guardedTwice false default (Course.start ())
    lastPut "" ended.2.journal =
        some (.shutdown "redelivery attempt 1 of exchange  interrupted") ∧
      ∃ y, ended.1 = .finished y ∧
        y.failure =
          some (.exhausted 1 (.shutdown "redelivery attempt 1 of exchange  interrupted")) :=
  ⟨rfl, _, rfl, rfl⟩

end Delivery

end Mediation
