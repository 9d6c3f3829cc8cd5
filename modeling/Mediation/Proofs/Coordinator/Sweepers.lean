import Mediation.Proofs.Coordinator.Phases
import Mediation.Proofs.Coordinator.Timers

/-!
# Who sweeps

A task sweeps when its job is that of the sweeper. Only a start lets a task begin to do so, and only
its own turn or a stop ends it: the turn of any other task leaves those who sweep where they stand,
and able to run if they were (`aside_runJob`). A stop may end them, but it raises the signal first,
and when it is over no request is left (`Halts`).
-/

set_option autoImplicit false

namespace Mediation

namespace Coordinator

variable {c d e : Coordinator} {task other : TaskId} {job : Job} {next : Option Instant}
  {gone tasks : List TaskId}

/-- A task sweeps; once it has started, it waits for its next sweep. -/
def Sweeps (c : Coordinator) (task : TaskId) (next : Option Instant) : Prop :=
  c.job? task = some (.sweep next)

/-- Whoever waits for its next sweep has a timer for it. -/
theorem Sweeps.timer {due : Instant} (sweeps : c.Sweeps task (some due)) :
    (Instant.tick due, task) ∈ c.timers :=
  timer_of_job? sweeps rfl

/-- From `c` to `d` nobody begins to sweep, and whoever goes on can run if it could before, unless
it is the one task. -/
structure Thins (task : TaskId) (c d : Coordinator) : Prop where
  numbered : c.Numbered → d.Numbered
  old : ∀ {other next}, d.Sweeps other next → c.Sweeps other next
  ready : ∀ {other next}, other ≠ task → d.Sweeps other next → other ∈ c.ready → other ∈ d.ready
  config : d.config = c.config
  now : d.now = c.now
  dissolved : d.dissolved = c.dissolved

/-- Besides, all others go on sweeping, and the coordinator runs as before. -/
structure Aside (task : TaskId) (c d : Coordinator) : Prop extends Thins task c d where
  kept : ∀ {other next}, other ≠ task → c.Sweeps other next → d.Sweeps other next
  lifecycle : d.lifecycle = c.lifecycle

theorem Thins.trans (first : Thins task c d) (second : Thins task d e) : Thins task c e where
  numbered := second.numbered ∘ first.numbered
  old sweeps := first.old (second.old sweeps)
  ready apart sweeps can :=
    second.ready apart sweeps (first.ready apart (second.old sweeps) can)
  config := second.config.trans first.config
  now := second.now.trans first.now
  dissolved := second.dissolved.trans first.dissolved

theorem Aside.trans (first : Aside task c d) (second : Aside task d e) : Aside task c e where
  toThins := first.toThins.trans second.toThins
  kept apart := second.kept apart ∘ first.kept apart
  lifecycle := second.lifecycle.trans first.lifecycle

/-! ## Moves -/

/-- Where a task has taken its turn, and sweeps only if it did before, nobody else begins to. -/
theorem Apart.thins (apart : Apart task gone c d)
    (own : ∀ next, d.Sweeps task next → c.Sweeps task next) : Thins task c d where
  numbered := apart.numbered
  old {other next} sweeps := by
    by_cases mine : other = task
    · subst mine
      exact own next sweeps
    · exact ((apart.job?_iff mine rfl).mp sweeps).2
  ready other sweeps can := apart.ready other ((apart.job?_iff other rfl).mp sweeps).1 can
  config := apart.config
  now := apart.now
  dissolved := apart.dissolved

theorem Beside.aside (beside : Beside task c d)
    (own : ∀ next, d.Sweeps task next → c.Sweeps task next) : Aside task c d where
  toThins := beside.thins own
  kept other sweeps := (beside.job?_iff other rfl).mpr ⟨List.not_mem_nil, sweeps⟩
  lifecycle := beside.lifecycle

/-- Nobody who sweeps is disturbed where all tasks stand where they stood. -/
theorem Tends.aside (tends : Tends c d) : Aside task c d :=
  (tends.beside task).aside fun _ sweeps => (tends.job?_iff rfl).mp sweeps

theorem aside_called (c : Coordinator) (task : TaskId) : Aside task c (c.called task) :=
  (c.beside_called task).aside fun _ sweeps => sweeps

theorem not_sweeps_finish (c : Coordinator) (task : TaskId) (report : Report)
    (next : Option Instant) : ¬ (c.finish task report).Sweeps task next := by
  simp [Sweeps, job?_finish]

theorem aside_finish (c : Coordinator) (task : TaskId) (report : Report) :
    Aside task c (c.finish task report) :=
  (c.beside_finish task report).aside fun next sweeps =>
    absurd sweeps (c.not_sweeps_finish task report next)

theorem not_sweeps_park (idle : job.isSweep = false) (c : Coordinator) (task : TaskId)
    (next : Option Instant) : ¬ (c.park task job).Sweeps task next := by
  rw [Sweeps, job?_park, if_pos rfl, Option.map_eq_some_iff]
  rintro ⟨_, _, rfl⟩
  simp [Job.isSweep] at idle

theorem aside_park (c : Coordinator) (task : TaskId) (idle : job.isSweep = false) :
    Aside task c (c.park task job) :=
  (c.beside_park task job).aside fun next sweeps =>
    absurd sweeps (not_sweeps_park idle c task next)

/-- A task begins that does not sweep. -/
theorem aside_spawn (c : Coordinator) (idle : job.isSweep = false) :
    Aside c.begun c (c.spawn job).1 := by
  refine (c.beside_spawn job).aside fun next sweeps => ?_
  rw [Sweeps, job?_spawn, if_pos rfl, Option.or_eq_some_iff] at sweeps
  rcases sweeps with there | ⟨_, begins⟩
  · exact there
  · rw [Option.some.inj begins] at idle
    simp [Job.isSweep] at idle

/-- The turn of a task that does not sweep disturbs nobody who does. -/
theorem Acts.aside (acts : c.Acts task job d) (idle : job.isSweep = false) : Aside task c d := by
  refine acts.beside.aside fun next sweeps => ?_
  cases acts with
  | stays tends => exact (tends.job?_iff rfl).mp sweeps
  | waits tends again kind _ _ =>
      exact absurd sweeps (not_sweeps_park (kind.trans idle) _ task next)
  | ends tends report => exact absurd sweeps (not_sweeps_finish _ task report next)
  | collects tends ticket after _ _ _ report =>
      exact absurd sweeps (not_sweeps_finish _ task report next)

/-! ## Stops -/

/-- A stop raises the signal, or is over and leaves no request. -/
structure Halts (task : TaskId) (c d : Coordinator) : Prop extends Thins task c d where
  halted : d.lifecycle.phase = .stopping ∨
    d.lifecycle.phase = .stopped ∧ d.registry.entries = []

/-- **A stop that waits for others** goes on waiting, or is over. -/
theorem Ceases.aside_or_halts (ceases : c.Ceases task tasks d) :
    Aside task c d ∨ Halts task c d := by
  cases ceases with
  | waits deadline => exact .inl (c.aside_park task rfl)
  | panics => exact .inl (c.aside_finish task _)
  | ends gone _ _ apart _ ended empty lifecycle _ =>
      refine .inr ⟨apart.thins fun next sweeps => ?_, .inr ⟨?_, empty⟩⟩
      · rw [Sweeps, ended] at sweeps
        simp at sweeps
      · rw [lifecycle]
        rfl

/-- **A stop that begins** does nothing, raises the signal, or is over. -/
theorem beginStop_halts (c : Coordinator) (task : TaskId) :
    Aside task c (c.beginStop task) ∨ Halts task c (c.beginStop task) := by
  rcases c.beginStop_ceases task with ⟨_, refused⟩ | ⟨_, ceases⟩
  · rw [refused]
    exact .inl (c.aside_finish task _)
  · let stopping : Lifecycle := { c.lifecycle with phase := .stopping, signal := true }
    have raised : Thins task c (c.withSignal stopping) :=
      (c.apart_withSignal task stopping).thins fun _ sweeps => sweeps
    rcases ceases.aside_or_halts with aside | halts
    · exact .inr ⟨raised.trans aside.toThins, .inl (by rw [aside.lifecycle]; rfl)⟩
    · exact .inr ⟨raised.trans halts.toThins, halts.halted⟩

/-! ## Starts -/

/-- Of the two tasks that a start begins one sweeps. -/
theorem Starts.sweeps_cases (starts : Starts c d) (sweeps : d.Sweeps other next) :
    c.Sweeps other next ∨ other = c.begun + 1 ∧ next = none := by
  rw [Sweeps, starts.job?, Option.or_eq_some_iff, Option.or_eq_some_iff] at sweeps
  rcases sweeps with (before | ⟨_, begins⟩) | ⟨_, begins⟩
  · exact .inl before
  · split at begins <;> simp at begins
  · split at begins
    · next own => exact .inr ⟨own.symm, (Job.sweep.inj (Option.some.inj begins)).symm⟩
    · simp at begins

theorem Starts.sweeps (starts : Starts c d) (numbered : c.Numbered) :
    d.Sweeps (c.begun + 1) none := by
  have fresh : c.job? (c.begun + 1) = none :=
    job?_eq_none_iff.mpr fun entry member =>
      Nat.ne_of_lt (Nat.lt_succ_of_lt (numbered entry member))
  simp [Sweeps, starts.job?, fresh]

theorem Starts.ready_sweeper (starts : Starts c d) : c.begun + 1 ∈ d.ready := by
  rw [starts.ready]
  exact List.mem_append_right _ List.mem_cons_self

/-! ## Turns -/

/-- **The turn of a task that does not sweep** disturbs nobody who does, unless it is that of a
stop. -/
theorem aside_runJob (c : Coordinator) (task : TaskId) (idle : job.isSweep = false) :
    Aside task c (c.runJob task job) ∨ Halts task c (c.runJob task job) := by
  cases live : job.isStop with
  | false => exact .inl ((c.acts_runJob task live).aside idle)
  | true =>
      cases job with
      | stop => exact c.beginStop_halts task
      | join tasks deadline => exact (c.joinTasks_ceases task tasks deadline).aside_or_halts
      | _ => simp [Job.isStop] at live

end Coordinator

end Mediation
