import Mediation.Proofs.Coordinator.Timeouts

/-!
# One sweeper

A coordinator that is started has one task that sweeps, and when no task can run this one has a
timer for its next sweep (`sole_sweeper`). Before a start and after a stop there is none, be it that
the stop was in time or gave the sweeper up. So nobody waits for ever while the coordinator runs.

All this holds as long as there is some time between two sweeps. Without any, the sweeper panics in
its first turn and the start goes through all the same; then nobody ever times out.

The invariant (`Tended`) says who sweeps at which stage of the coordinator (`Stage`): a stop takes
over the list of background tasks, and whoever still sweeps is on it, until the stop is over and has
seen all of them end, or has given them up.
-/

set_option autoImplicit false

namespace Mediation

/-- Whether a job is neither that of the sweeper nor that of a stop that waits for others. -/
def Job.isPlain : Job → Bool
  | .sweep _ | .join _ _ => false
  | _ => true

theorem Job.isSweep_of_isPlain {job : Job} (plain : job.isPlain = true) : job.isSweep = false := by
  cases job with
  | sweep next => simp [isPlain] at plain
  | _ => rfl

theorem Job.isPlain_of_isSweep {job : Job} (idle : job.isSweep = false)
    (live : job.isStop = false) : job.isPlain = true := by
  cases job with
  | sweep next => simp [isSweep] at idle
  | join tasks deadline => simp [isStop] at live
  | _ => rfl

theorem Job.isPlain_of_isCall {job : Job} (call : job.isCall = true) : job.isPlain = true := by
  cases job with
  | sweep next => simp [isCall] at call
  | join tasks deadline => simp [isCall] at call
  | _ => rfl

namespace Coordinator

variable {c d : Coordinator} {task other : TaskId} {job : Job} {next : Option Instant}
  {tasks gone : List TaskId} {settings : CoordinatorConfig} {books : List (Exchange × Duration)}
  {choices : List Choice} {choice : Choice} {n : Nat}

/-! ## Who sweeps, and who waits for them -/

def Sweeper (c : Coordinator) (task : TaskId) : Prop := ∃ next, c.Sweeps task next

/-- Whoever sweeps is about to start, or has a timer for its next sweep, at most one pace away. -/
inductive Paces (c : Coordinator) (task : TaskId) : Option Instant → Prop
  | starts (ready : task ∈ c.ready) : Paces c task none
  | waits {due : Instant} (paced : c.pace ≠ 0) (near : due ≤ c.now + c.pace)
      (fires : Instant.tick due ≤ c.now → task ∈ c.ready) : Paces c task (some due)

/-- Where the coordinator stands, and who sweeps then. -/
inductive Stage (c : Coordinator) : Prop
  /-- Before a start and after a stop nobody sweeps. -/
  | idle (phase : c.lifecycle.phase = .created ∨ c.lifecycle.phase = .stopped)
      (nobody : ∀ task, ¬ c.Sweeper task) (free : ∀ task tasks, ¬ c.Joins task tasks)
  /-- While the coordinator runs, whoever sweeps is one of its background tasks, and there is
  someone if there is time between two sweeps. -/
  | running (phase : c.lifecycle.phase = .started) (quiet : c.lifecycle.signal = false)
      (listed : ∀ task, c.Sweeper task → task ∈ c.background)
      (someone : c.pace ≠ 0 → ∃ task, c.Sweeper task) (free : ∀ task tasks, ¬ c.Joins task tasks)
  /-- A stop waits for whoever still sweeps. -/
  | stopping (phase : c.lifecycle.phase = .stopping) (signal : c.lifecycle.signal = true)
      (awaited : ∀ joiner tasks, c.Joins joiner tasks → ∀ task, c.Sweeper task → task ∈ tasks)
      (single : ∀ joiner tasks other more, c.Joins joiner tasks → c.Joins other more →
        joiner = other)

/-- **One sweeper at most**, and as many as the stage of the coordinator wants. -/
structure Tended (settings : CoordinatorConfig) (c : Coordinator) : Prop where
  config : c.config = settings
  numbered : c.Numbered
  dissolved : c.dissolved = false
  paces : ∀ task next, c.Sweeps task next → c.Paces task next
  alone : ∀ task other, c.Sweeper task → c.Sweeper other → task = other
  stage : c.Stage

theorem tended_create (config : CoordinatorConfig) (transport : Transport)
    (naming : Nat → String) : (create config transport naming).Tended config where
  config := rfl
  numbered := by simp [Numbered, create]
  dissolved := rfl
  paces _ _ sweeps := by simp [Sweeps, job?, create] at sweeps
  alone _ _ sweeper _ := by simp [Sweeper, Sweeps, job?, create] at sweeper
  stage := .idle (.inl rfl) (by simp [Sweeper, Sweeps, job?, create])
    (by simp [Joins, job?, create])

/-- A sweeper keeps its pace whatever others do. -/
theorem Paces.keep (paces : c.Paces task next) (config : d.config = c.config)
    (now : d.now = c.now) (ready : task ∈ c.ready → task ∈ d.ready) : d.Paces task next := by
  have pace : d.pace = c.pace := by rw [pace, config, pace]
  cases paces with
  | starts can => exact .starts (ready can)
  | waits paced near fires =>
      exact .waits (pace ▸ paced) (by rwa [now, pace]) fun come => ready (fires (now ▸ come))

/-- What has to be shown of an event that is neither a start nor the end of a stop: nobody begins to
sweep or to wait for others, whoever sweeps keeps its pace, and nobody stops sweeping while the
coordinator runs. -/
theorem Tended.keep (tended : c.Tended settings) (numbered : d.Numbered)
    (config : d.config = c.config) (dissolved : d.dissolved = c.dissolved)
    (lifecycle : d.lifecycle = c.lifecycle)
    (background : d.background = c.background) (fewer : ∀ task, d.Sweeper task → c.Sweeper task)
    (joins : ∀ task tasks, d.Joins task tasks → c.Joins task tasks)
    (paces : ∀ task next, d.Sweeps task next → d.Paces task next)
    (goesOn : c.lifecycle.phase = .started → c.lifecycle.signal = false → c.pace ≠ 0 →
      ∀ task, c.Sweeper task → d.Sweeper task) : d.Tended settings where
  config := config.trans tended.config
  numbered := numbered
  dissolved := dissolved.trans tended.dissolved
  paces := paces
  alone task other one two := tended.alone task other (fewer task one) (fewer other two)
  stage := by
    have free : (∀ task tasks, ¬ c.Joins task tasks) → ∀ task tasks, ¬ d.Joins task tasks :=
      fun free task tasks again => free task tasks (joins task tasks again)
    cases tended.stage with
    | idle phase nobody before =>
        exact .idle (lifecycle ▸ phase) (fun task again => nobody task (fewer task again))
          (free before)
    | running phase quiet listed someone before =>
        refine .running (lifecycle ▸ phase) (lifecycle ▸ quiet) (fun task again => ?_)
          (fun paced => ?_) (free before)
        · rw [background]
          exact listed task (fewer task again)
        · have paced : c.pace ≠ 0 := by rwa [pace, config] at paced
          obtain ⟨task, sweeper⟩ := someone paced
          exact ⟨task, goesOn phase quiet paced task sweeper⟩
    | stopping phase signal awaited single =>
        exact .stopping (lifecycle ▸ phase) (lifecycle ▸ signal)
          (fun joiner tasks again task sweeper =>
            awaited joiner tasks (joins joiner tasks again) task (fewer task sweeper))
          (fun joiner tasks other more one two =>
            single joiner tasks other more (joins joiner tasks one) (joins other more two))

/-! ## Turns -/

theorem Apart.sweeper_iff (apart : Apart task gone c d) (different : other ≠ task) :
    d.Sweeper other ↔ other ∉ gone ∧ c.Sweeper other := by
  rw [Sweeper, Sweeper, ← exists_and_left]
  exact exists_congr fun next => apart.job?_iff different rfl

theorem Apart.paces (apart : Apart task gone c d) (tended : c.Tended settings)
    (different : other ≠ task) (sweeps : d.Sweeps other next) : d.Paces other next := by
  obtain ⟨stays, before⟩ := (apart.job?_iff different rfl).mp sweeps
  exact (tended.paces other next before).keep apart.config apart.now
    (apart.ready different stays)

/-- What has to be shown of a turn that is not that of a stop, about the task whose turn it is. -/
theorem Tended.turned (tended : c.Tended settings) (beside : Beside task c d)
    (fewer : d.Sweeper task → c.Sweeper task)
    (joins : ∀ tasks, d.Joins task tasks → c.Joins task tasks)
    (paces : ∀ next, d.Sweeps task next → d.Paces task next)
    (goesOn : c.lifecycle.phase = .started → c.lifecycle.signal = false → c.pace ≠ 0 →
      c.Sweeper task → d.Sweeper task) : d.Tended settings := by
  refine tended.keep (beside.numbered tended.numbered) beside.config beside.dissolved
    beside.lifecycle beside.background (fun other sweeper => ?_) (fun other tasks again => ?_)
    (fun other next sweeps => ?_) fun phase quiet paced other sweeper => ?_
  all_goals by_cases mine : other = task
  · subst mine
    exact fewer sweeper
  · exact ((beside.sweeper_iff mine).mp sweeper).2
  · subst mine
    exact joins tasks again
  · exact ((beside.joins_iff mine).mp again).2
  · subst mine
    exact paces next sweeps
  · exact beside.paces tended mine sweeps
  · subst mine
    exact goesOn phase quiet paced sweeper
  · exact (beside.sweeper_iff mine).mpr ⟨List.not_mem_nil, sweeper⟩

/-- A task that neither sweeps nor waits for others. -/
def Plain (c : Coordinator) (task : TaskId) : Prop :=
  ∀ job, c.job? task = some job → job.isPlain = true

theorem Plain.idle (plain : c.Plain task) : ¬ c.Sweeper task := by
  rintro ⟨next, sweeps⟩
  simpa [Job.isPlain] using plain _ sweeps

theorem Plain.free (plain : c.Plain task) : ¬ c.Joins task tasks := by
  rintro ⟨deadline, joins⟩
  simpa [Job.isPlain] using plain _ joins

theorem plain_of_ended (ended : c.job? task = none) : c.Plain task := by
  simp [Plain, ended]

theorem plain_of_job (standing : c.job? task = some job) (plain : job.isPlain = true) :
    c.Plain task := by
  simp [Plain, standing, plain]

/-- A turn of a task that neither sweeps nor waits for others, before and after. -/
theorem Tended.aside (tended : c.Tended settings) (beside : Beside task c d) (before : c.Plain task)
    (after : d.Plain task) : d.Tended settings :=
  tended.turned beside (fun sweeper => absurd sweeper after.idle)
    (fun _ joins => absurd joins after.free)
    (fun next sweeps => absurd ⟨next, sweeps⟩ after.idle)
    fun _ _ _ sweeper => absurd sweeper before.idle

/-- A task that neither sweeps nor waits for others does not begin to. -/
theorem Acts.plain (acts : c.Acts task job d) (standing : c.job? task = some job)
    (plain : job.isPlain = true) : d.Plain task := by
  cases acts with
  | stays tends => exact plain_of_job (tends.kept standing) plain
  | waits tends next sweeps calm _ =>
      rw [Job.isSweep_of_isPlain plain] at sweeps
      refine plain_of_job ?_ (Job.isPlain_of_isSweep sweeps calm)
      rw [job?_park, if_pos rfl, tends.kept standing, Option.map_some]
  | ends tends report => exact plain_of_ended (job?_finish _ task report)
  | collects tends ticket after _ _ _ report => exact plain_of_ended (job?_finish _ task report)

/-! ## Sweeps -/

/-- A sweeper waits for its next sweep. -/
theorem Tended.rearm (tended : c.Tended settings) (sweeps : c.Sweeps task next)
    (beside : Beside task c d) (still : d.Sweeps task next) (paced : c.pace ≠ 0) {due : Instant}
    (later : c.now < due) (near : due ≤ c.now + c.pace) :
    (d.park task (.sweep (some due))).Tended settings := by
  have own : (d.park task (.sweep (some due))).Sweeps task (some due) := by
    rw [Sweeps, job?_park, if_pos rfl, still, Option.map_some]
  have parks := beside.trans (d.beside_park task (.sweep (some due)))
  have pace : (d.park task (.sweep (some due))).pace = c.pace := by
    rw [Coordinator.pace, parks.config, Coordinator.pace]
  refine tended.turned parks (fun _ => ⟨next, sweeps⟩) (fun tasks joins => ?_)
    (fun again waits => ?_) fun _ _ _ _ => ⟨_, own⟩
  · obtain ⟨deadline, joins⟩ := joins
    rw [own] at joins
    simp at joins
  · obtain rfl : some due = again := by
      rw [Sweeps, own, Option.some_inj, Job.sweep.injEq] at waits
      exact waits
    refine .waits (by rwa [pace]) (by rwa [parks.now, pace]) fun come => ?_
    rw [parks.now] at come
    exact absurd come (Nat.not_le.mpr (Nat.lt_of_lt_of_le later (Instant.le_tick due)))

/-- A sweeper ends that sees the signal, or has no time between its sweeps. -/
theorem Tended.ends (tended : c.Tended settings) (beside : Beside task c d) (report : Report)
    (allowed : c.pace = 0 ∨ c.signalled = true) : (d.finish task report).Tended settings := by
  have gone := plain_of_ended (job?_finish d task report)
  refine tended.turned (beside.trans (d.beside_finish task report))
    (fun sweeper => absurd sweeper gone.idle) (fun _ joins => absurd joins gone.free)
    (fun next sweeps => absurd ⟨next, sweeps⟩ gone.idle) fun _ quiet paced _ => ?_
  rcases allowed with stuck | raised
  · exact absurd stuck paced
  · simp [signalled, quiet, tended.dissolved] at raised

/-- **A turn of a sweeper.** -/
theorem Tended.sweep (tended : c.Tended settings) (sweeps : c.Sweeps task next) :
    ((c.called task).runSweeper task next).Tended settings := by
  have called := c.beside_called task
  cases next with
  | none =>
      simp only [runSweeper]
      split
      · next stuck => exact tended.ends called _ (.inl stuck)
      · next paced =>
          split
          · next raised => exact tended.ends called _ (.inr raised)
          · exact tended.rearm sweeps called sweeps paced
              (Nat.lt_add_of_pos_right (Nat.pos_of_ne_zero paced)) (Nat.le_refl _)
  | some due =>
      obtain _ | ⟨paced, near, _⟩ := tended.paces task (some due) sweeps
      simp only [runSweeper]
      split
      · next come =>
          have tends := (c.called task).tends_sweepAt c.now true
          have swept := called.trans (tends.beside task)
          split
          · next raised => exact tended.ends swept _ (.inr (tends.signalled.symm.trans raised))
          · exact tended.rearm sweeps swept (tends.kept sweeps) paced (lt_sweepAfter paced)
              (sweepAfter_le come.1)
      · next early =>
          split
          · next raised => exact tended.ends called _ (.inr raised)
          · have behind : (c.called task).now < due := by
              have there : (c.called task).dissolved = false := tended.dissolved
              simpa [there] using early
            refine tended.turned called id (fun _ => id) (fun again waits => ?_) fun _ _ _ => id
            obtain rfl : some due = again := by
              rw [Sweeps] at sweeps
              exact Job.sweep.inj (Option.some.inj (sweeps.symm.trans waits))
            refine .waits paced near fun come => ?_
            exact absurd come (Nat.not_le.mpr (Nat.lt_of_lt_of_le behind (Instant.le_tick due)))

/-! ## Stops -/

/-- What has to be shown of a turn after which its task does not sweep is where the coordinator
stands then. -/
theorem Tended.restage (tended : c.Tended settings) (apart : Apart task gone c d)
    (idle : ¬ d.Sweeper task) (stage : d.Stage) : d.Tended settings := by
  have different : ∀ {other}, d.Sweeper other → other ≠ task := by
    rintro other sweeper rfl
    exact idle sweeper
  have before : ∀ {other}, d.Sweeper other → c.Sweeper other := fun sweeper =>
    ((apart.sweeper_iff (different sweeper)).mp sweeper).2
  exact
    { config := apart.config.trans tended.config
      numbered := apart.numbered tended.numbered
      dissolved := apart.dissolved.trans tended.dissolved
      paces := fun other next sweeps => apart.paces tended (different ⟨next, sweeps⟩) sweeps
      alone := fun other another one two => tended.alone other another (before one) (before two)
      stage }

/-- If only one task waits for others, and does so no more, then nobody does. -/
theorem Apart.free (apart : Apart task gone c d) (plain : d.Plain task)
    (single : ∀ other more, c.Joins other more → other = task) (joiner : TaskId)
    (more : List TaskId) : ¬ d.Joins joiner more := by
  intro joins
  by_cases mine : joiner = task
  · exact plain.free (mine ▸ joins)
  · exact mine (single joiner more ((apart.joins_iff mine).mp joins).2)

/-- A stop waits for whoever sweeps, and no other task waits for others. -/
theorem Tended.awaits (tended : c.Tended settings) (deadline : Instant)
    (phase : c.lifecycle.phase = .stopping) (signal : c.lifecycle.signal = true)
    (awaited : ∀ other, c.Sweeper other → other ∈ tasks)
    (single : ∀ other more, c.Joins other more → other = task) :
    (c.park task (.join tasks deadline)).Tended settings := by
  have apart := c.apart_park task (.join tasks deadline)
  have idle : ¬ (c.park task (.join tasks deadline)).Sweeper task := fun ⟨next, sweeps⟩ =>
    not_sweeps_park rfl c task next sweeps
  have only : ∀ joiner more, (c.park task (.join tasks deadline)).Joins joiner more →
      joiner = task := fun joiner more joins => by
    by_contra different
    exact different (single joiner more ((apart.joins_iff different).mp joins).2)
  refine tended.restage apart idle (.stopping phase signal ?_ ?_)
  · intro joiner more joins other sweeper
    obtain rfl := only joiner more joins
    obtain ⟨later, joins⟩ := joins
    rw [job?_park, if_pos rfl, Option.map_eq_some_iff] at joins
    obtain ⟨_, _, same⟩ := joins
    obtain ⟨rfl, _⟩ := Job.join.inj same
    have different : other ≠ joiner := by
      rintro rfl
      exact idle sweeper
    exact awaited other ((apart.sweeper_iff different).mp sweeper).2
  · intro joiner tasks other more one two
    rw [only joiner tasks one, only other more two]

/-- **A stop that has raised the signal**, and waits for whoever sweeps. -/
theorem Tended.ceases (tended : c.Tended settings) (ceases : c.Ceases task tasks d)
    (phase : c.lifecycle.phase = .stopping) (signal : c.lifecycle.signal = true)
    (awaited : ∀ other, c.Sweeper other → other ∈ tasks)
    (single : ∀ other more, c.Joins other more → other = task) : d.Tended settings := by
  cases ceases with
  | waits deadline => exact tended.awaits deadline phase signal awaited single
  | panics =>
      have apart := c.apart_finish task (.panicked beyondClock)
      have gone := plain_of_ended (job?_finish c task (.panicked beyondClock))
      have free := apart.free gone single
      exact tended.restage apart gone.idle (.stopping phase signal
        (fun joiner more joins => absurd joins (free joiner more))
        fun joiner more _ _ joins _ => absurd joins (free joiner more))
  | ends given _ finished apart _ ended _ lifecycle _ =>
      have gone := plain_of_ended ended
      refine tended.restage apart gone.idle (.idle (.inr ?_) ?_ (apart.free gone single))
      · rw [lifecycle]
        rfl
      · intro other sweeper
        by_cases mine : other = task
        · exact gone.idle (mine ▸ sweeper)
        · obtain ⟨stays, next, before⟩ := (apart.sweeper_iff mine).mp sweeper
          have finished := finished other (awaited other ⟨next, before⟩) stays
          rw [Sweeps, finished] at before
          simp at before

/-- A stop that waits. -/
theorem Tended.join (tended : c.Tended settings) {deadline : Instant}
    (joins : c.job? task = some (.join tasks deadline)) :
    ((c.called task).joinTasks task tasks deadline).Tended settings := by
  have called := tended.turned (c.beside_called task) id (fun _ => id)
    (fun next sweeps => absurd (joins.symm.trans sweeps) (by simp)) fun _ _ _ => id
  have waiting : (c.called task).Joins task tasks := ⟨deadline, joins⟩
  cases called.stage with
  | idle _ _ free => exact absurd waiting (free task tasks)
  | running _ _ _ _ free => exact absurd waiting (free task tasks)
  | stopping phase signal awaited single =>
      exact called.ceases (joinTasks_ceases _ task tasks deadline) phase signal
        (awaited task tasks waiting)
        fun other more joins => single other more task tasks joins waiting

/-- A stop that begins. -/
theorem Tended.stop (tended : c.Tended settings) (plain : c.Plain task) :
    ((c.called task).beginStop task).Tended settings := by
  have called := tended.aside (c.beside_called task) plain plain
  rcases (c.called task).beginStop_ceases task with ⟨_, refused⟩ | ⟨running, ceases⟩
  · rw [refused]
    exact called.aside (beside_finish _ task _) plain (plain_of_ended (job?_finish _ task _))
  · cases called.stage with
    | idle phase _ _ =>
        rcases phase with phase | phase <;>
          simp [Lifecycle.runAllowed, Phase.runAllowed, phase] at running
    | stopping phase _ _ _ => simp [Lifecycle.runAllowed, Phase.runAllowed, phase] at running
    | running _ _ listed _ free =>
        have raised := called.restage ((c.called task).apart_withSignal task
          { (c.called task).lifecycle with phase := .stopping, signal := true }) plain.idle
          (.stopping rfl rfl (fun joiner more joins => absurd joins (free joiner more))
            fun joiner more _ _ joins _ => absurd joins (free joiner more))
        exact raised.ceases ceases rfl rfl listed
          fun other more joins => absurd joins (free other more)

/-! ## Events -/

theorem Tended.turn (tended : c.Tended settings) (sound : c.Sound books []) (task : TaskId) :
    (c.turn task).Tended settings := by
  cases standing : c.job? task with
  | none =>
      have plain := plain_of_ended standing
      rw [turn_of_ended standing]
      exact tended.aside (c.beside_called task) plain plain
  | some job =>
      rw [turn_eq standing (sound.leads_called standing).sound.held]
      cases plain : job.isPlain with
      | false =>
          cases job with
          | sweep next => exact tended.sweep standing
          | join tasks deadline => exact tended.join standing
          | _ => simp [Job.isPlain] at plain
      | true =>
          have calm := plain_of_job standing plain
          cases live : job.isStop with
          | true =>
              cases job with
              | stop =>
                  change ((c.called task).beginStop task).Tended settings
                  exact tended.stop calm
              | join tasks deadline => simp [Job.isPlain] at plain
              | _ => simp [Job.isStop] at live
          | false =>
              have acts := (c.called task).acts_runJob task live
              exact tended.aside ((c.beside_called task).trans acts.beside) calm
                (acts.plain standing plain)

/-- A task begins that neither sweeps nor waits for others. -/
theorem Tended.spawn (tended : c.Tended settings) (plain : job.isPlain = true) :
    (c.spawn job).1.Tended settings := by
  have fresh : c.job? c.begun = none := job?_eq_none_iff.mpr fun entry member =>
    Nat.ne_of_lt (tended.numbered entry member)
  have own : (c.spawn job).1.job? c.begun = some job := by
    rw [job?_spawn, fresh, Option.none_or, if_pos rfl]
  exact tended.aside (c.beside_spawn job) (plain_of_ended fresh) (plain_of_job own plain)

theorem Tended.tends (tended : c.Tended settings) (tends : Tends c d) : d.Tended settings :=
  have fresh : c.job? c.begun = none := job?_eq_none_iff.mpr fun entry member =>
    Nat.ne_of_lt (tended.numbered entry member)
  tended.turned (tends.beside c.begun)
    (fun ⟨next, sweeps⟩ => ⟨next, (tends.job?_iff rfl).mp sweeps⟩)
    (fun _ ⟨deadline, joins⟩ => ⟨deadline, (tends.job?_iff rfl).mp joins⟩)
    (fun next sweeps => by
      rw [Sweeps, tends.job?_iff rfl, fresh] at sweeps
      simp at sweeps)
    fun _ _ _ ⟨next, sweeps⟩ => ⟨next, tends.kept sweeps⟩

theorem Tended.elapse (tended : c.Tended settings) (instant : Instant) :
    (c.elapse instant).Tended settings := by
  refine tended.keep tended.numbered rfl rfl rfl rfl (fun _ => id) (fun _ _ => id) ?_
    fun _ _ _ _ => id
  intro task next sweeps
  have before : c.Sweeps task next := sweeps
  cases tended.paces task next before with
  | starts ready => exact .starts (c.ready_subset_wake _ ready)
  | waits paced near _ =>
      have later : c.now ≤ (c.elapse instant).now := Nat.le_max_left _ _
      exact .waits paced (Nat.le_trans near (Nat.add_le_add_right later _))
        fun come => ready_elapse before.timer come

/-- A start finds nobody who sweeps, and lets one task begin to. -/
theorem Tended.start (tended : c.Tended settings) : (c.step .start).Tended settings := by
  rcases c.step_start_cases with same | starts
  · rwa [same]
  · obtain ⟨nobody, free⟩ : (∀ task, ¬ c.Sweeper task) ∧ ∀ task tasks, ¬ c.Joins task tasks := by
      cases tended.stage with
      | idle _ nobody free => exact ⟨nobody, free⟩
      | running phase _ _ _ _ => simpa [phase] using starts.idle
      | stopping phase _ _ _ => simpa [phase] using starts.idle
    have sole : ∀ other next, (c.step .start).Sweeps other next →
        other = c.begun + 1 ∧ next = none := fun other next sweeps =>
      (starts.sweeps_cases sweeps).resolve_left fun before => nobody other ⟨next, before⟩
    refine ⟨starts.config.trans tended.config, starts.numbered tended.numbered,
      starts.dissolved.trans tended.dissolved, ?_, ?_, .running starts.phase starts.signal ?_ ?_ ?_⟩
    · intro other next sweeps
      obtain ⟨rfl, rfl⟩ := sole other next sweeps
      exact .starts starts.ready_sweeper
    · rintro task other ⟨next, one⟩ ⟨later, two⟩
      rw [(sole task next one).1, (sole other later two).1]
    · rintro other ⟨next, sweeps⟩
      rw [(sole other next sweeps).1, starts.background]
      exact List.mem_append_right _ (.tail _ (.head _))
    · exact fun _ => ⟨c.begun + 1, none, starts.sweeps tended.numbered⟩
    · rintro other tasks ⟨deadline, joins⟩
      rw [starts.job?, Option.or_eq_some_iff, Option.or_eq_some_iff] at joins
      rcases joins with (before | ⟨_, begins⟩) | ⟨_, begins⟩
      · exact free other tasks ⟨deadline, before⟩
      all_goals split at begins <;> simp at begins

/-- **Every event** leaves one sweeper at most, and as many as the stage wants. -/
theorem Tended.step (tended : c.Tended settings) (sound : c.Sound books []) (call : choice.isCall) :
    (c.step choice).Tended settings := by
  cases choice with
  | turn task => exact tended.turn sound task
  | start => exact tended.start
  | elapse instant => exact tended.elapse instant
  | spawn job => exact tended.spawn (Job.isPlain_of_isCall call)
  | register x id timeout =>
      cases enrols : c.enrol x id timeout with
      | error panic =>
          simp only [Coordinator.step, enrols]
          exact tended
      | ok outcome =>
          obtain ⟨enrolled, ticket⟩ := outcome
          simp only [Coordinator.step, enrols]
          exact (tended.tends (tends_enrol enrols)).spawn rfl
  | rekey source target => exact tended.tends (c.tends_rekey source target)
  | publish address => exact tended.tends (c.tends_publish address)

theorem Tended.before (tended : c.Tended settings) (sound : c.Sound [] [])
    (calls : ∀ choice ∈ choices, choice.isCall) (n : Nat) :
    (c.before choices n).Tended settings :=
  before_induction tended (fun n choice there tended =>
    tended.step (sound.before calls n) (calls choice (List.mem_of_getElem? there))) n

/-! ## Who sweeps when no task can run -/

/-- The turn of a sweeper whose time has come while the coordinator runs. -/
theorem Sound.turn_of_sweep (sound : c.Sound books []) {due : Instant}
    (sweeps : c.Sweeps task (some due)) (come : due ≤ c.now) (dark : c.signalled = false) :
    c.turn task = ((c.called task).sweepAt c.now true).1.park task
      (.sweep (some (sweepAfter due c.now c.pace))) := by
  have tends := (c.called task).tends_sweepAt c.now true
  have still : ((c.called task).sweepAt c.now true).1.signalled = false :=
    tends.signalled.trans dark
  have there : (c.called task).dissolved = false := (Bool.or_eq_false_iff.mp dark).2
  have time : due ≤ (c.called task).now ∧ (!(c.called task).dissolved) = true :=
    ⟨come, by rw [there]; rfl⟩
  have ends : ¬ ((c.called task).sweepAt (c.called task).now true).1.signalled = true := by
    rw [show (c.called task).now = c.now from rfl, still]
    exact Bool.false_ne_true
  rw [turn_eq sweeps (sound.leads_called sweeps).sound.held]
  simp only [runJob, runSweeper]
  rw [if_pos time, if_neg ends]
  rfl

/-- A task sweeps again: it has a timer for its next sweep, which is still to come and at most one
pace away. Once the timer fires the task can run, and its turn times out everyone whose deadline has
come; then it waits for the sweep after that. -/
structure SweepsAgain (c : Coordinator) (task : TaskId) (due : Instant) : Prop where
  waits : c.Sweeps task (some due)
  timer : (Instant.tick due, task) ∈ c.timers
  later : c.now < Instant.tick due
  near : due ≤ c.now + c.pace
  ready : ∀ instant, Instant.tick due ≤ instant → task ∈ (c.elapse instant).ready
  sweeps : ∀ instant, Instant.tick due ≤ instant →
    (∀ entry ∈ ((c.elapse instant).turn task).registry.entries, instant < entry.deadline) ∧
      ∃ next, ((c.elapse instant).turn task).Sweeps task (some next) ∧ instant < next

theorem Tended.sweepsAgain (tended : c.Tended settings) (sound : c.Sound books [])
    (quiet : c.lifecycle.signal = false) (asleep : c.ready = []) {due : Instant}
    (sweeps : c.Sweeps task (some due)) : c.SweepsAgain task due := by
  obtain _ | ⟨paced, near, fires⟩ := tended.paces task (some due) sweeps
  have later : c.now < Instant.tick due := by
    refine Nat.not_le.mp fun come => ?_
    have ready := fires come
    rw [asleep] at ready
    exact absurd ready List.not_mem_nil
  refine ⟨sweeps, sweeps.timer, later, near, fun instant come => ?_, fun instant come => ?_⟩
  · exact ready_elapse sweeps.timer (Nat.le_trans come (Nat.le_max_right _ _))
  · have now : (c.elapse instant).now = instant :=
      Nat.max_eq_right (Nat.le_of_lt (Nat.lt_of_lt_of_le later come))
    have comes : due ≤ (c.elapse instant).now := by
      rw [now]
      exact Nat.le_trans (Instant.le_tick due) come
    have dark : (c.elapse instant).signalled = false := by
      change (c.lifecycle.signal || c.dissolved) = false
      rw [quiet, tended.dissolved]
      rfl
    have elapsed : (c.elapse instant).Sound _ [] :=
      (sound.leads_step (show (Choice.elapse instant).isCall from rfl)).sound
    have tends := ((c.elapse instant).called task).tends_sweepAt (c.elapse instant).now true
    rw [elapsed.turn_of_sweep sweeps comes dark]
    refine ⟨fun entry inside => ?_, sweepAfter due (c.elapse instant).now c.pace, ?_, ?_⟩
    · change entry ∈ (((c.elapse instant).called task).sweepAt _ true).1.registry.entries at inside
      rw [sweepAt_registry, Registry.sweep_entries, List.mem_filter, now] at inside
      simpa using inside.2
    · rw [Sweeps, job?_park, if_pos rfl, tends.kept sweeps, Option.map_some]
      rfl
    · rw [now]
      exact lt_sweepAfter paced

/-- Before a start and after a stop nobody sweeps. -/
theorem Tended.nobody (tended : c.Tended settings)
    (phase : c.lifecycle.phase = .created ∨ c.lifecycle.phase = .stopped) : ¬ c.Sweeper task := by
  cases tended.stage with
  | idle _ nobody _ => exact nobody task
  | running started _ _ _ _ => simp [started] at phase
  | stopping stopping _ _ _ => simp [stopping] at phase

/-- Nobody is about to start when no task can run. -/
theorem Tended.not_starting (tended : c.Tended settings) (asleep : c.ready = []) :
    ¬ c.Sweeps task none := by
  intro sweeps
  obtain ⟨ready⟩ := tended.paces task none sweeps
  rw [asleep] at ready
  exact absurd ready List.not_mem_nil

/-- While the coordinator runs and no task can, there is someone who sweeps again. -/
theorem Tended.someone (tended : c.Tended settings) (sound : c.Sound books []) (paced : c.pace ≠ 0)
    (phase : c.lifecycle.phase = .started) (asleep : c.ready = []) :
    ∃ task due, c.SweepsAgain task due ∧ ∀ other, c.Sweeper other → other = task := by
  cases tended.stage with
  | idle idle _ _ => simp [phase] at idle
  | stopping stopping _ _ _ => simp [phase] at stopping
  | running _ quiet _ someone _ =>
      obtain ⟨task, next, sweeps⟩ := someone paced
      cases next with
      | none => exact absurd sweeps (tended.not_starting asleep)
      | some due =>
          exact ⟨task, due, tended.sweepsAgain sound quiet asleep sweeps,
            fun other again => tended.alone other task again ⟨_, sweeps⟩⟩

/-- With no time between two sweeps nobody waits for a sweep. -/
theorem Tended.not_sweeps (tended : c.Tended settings) (stuck : c.pace = 0) {due : Instant} :
    ¬ c.Sweeps task (some due) := by
  intro sweeps
  obtain _ | ⟨paced, _, _⟩ := tended.paces task (some due) sweeps
  exact paced stuck

/-- Who sweeps in a run, and for how long requests wait. -/
structure KeepsSweeping (c : Coordinator) (choices : List Choice) : Prop where
  /-- Two tasks never sweep at once. -/
  alone : ∀ n task other, (c.before choices n).Sweeper task → (c.before choices n).Sweeper other →
    task = other
  /-- Before a start and after a stop nobody sweeps. -/
  idle : ∀ n, (c.before choices n).lifecycle.phase = .created ∨
      (c.before choices n).lifecycle.phase = .stopped →
    ∀ task, ¬ (c.before choices n).Sweeper task
  /-- While the coordinator runs and no task can, one task sweeps again and no other does. -/
  started : 0 < c.config.sweepInterval.totalNanos →
    ∀ n, (c.before choices n).lifecycle.phase = .started → (c.before choices n).ready = [] →
      ∃ task due, (c.before choices n).SweepsAgain task due ∧
        ∀ other, (c.before choices n).Sweeper other → other = task
  /-- Nobody waits for ever: whoever still waits then has not reached its latest instant. -/
  bounded : 0 < c.config.sweepInterval.totalNanos → c.Prompt choices →
    ∀ n, (c.before choices n).lifecycle.phase = .started → (c.before choices n).ready = [] →
      ∀ entry ∈ (c.before choices n).registry.entries, ∀ latest,
        c.Latest choices entry.deadline latest → (c.before choices n).now < latest
  /-- With no time between two sweeps nobody sweeps, and nobody times out. -/
  stuck : c.config.sweepInterval.totalNanos = 0 →
    ∀ n, ((c.before choices n).ready = [] → ∀ task, ¬ (c.before choices n).Sweeper task) ∧
      ∀ ticket request id, ¬ c.EndsAt choices ticket request n (.timeout id)

/-- **One sweeper.** Whatever the settings, whatever callers begin, in whatever order tasks take
their turns: while the coordinator runs one task sweeps, and before and after nobody does, unless
there is no time between two sweeps; then nobody does so at all. -/
theorem sole_sweeper (config : CoordinatorConfig) (transport : Transport)
    (naming : Nat → String) (choices : List Choice)
    (calls : ∀ choice ∈ choices, choice.isCall) :
    (create config transport naming).KeepsSweeping choices := by
  have sound := sound_create config transport naming
  have tended := (tended_create config transport naming).before sound calls
  have settings : (create config transport naming).config = config := rfl
  have watched : ∀ {unit}, (create config transport naming).pace ≠ 0 →
      unit ∣ (create config transport naming).pace →
        (create config transport naming).Watched unit config := watched_create
  generalize create config transport naming = c at sound tended settings watched ⊢
  have paces : ∀ n, (c.before choices n).pace = c.pace := fun n => by
    rw [pace, (tended n).config, pace, settings]
  refine ⟨fun n => (tended n).alone, fun n phase _ => (tended n).nobody phase,
    fun paced n phase asleep => ?_, ?_, ?_⟩
  · have lasts : (c.before choices n).pace ≠ 0 := by
      rw [paces n]
      exact pace_ne_zero paced
    exact (tended n).someone (sound.before calls n) lasts phase asleep
  · intro paced prompt n phase asleep entry inside latest limit
    obtain ⟨unit, whole, starts, bounds⟩ := limit.bounds
    have inTime := (watched (pace_ne_zero paced) whole).before sound calls prompt starts n
    obtain ⟨_, task, next, sweeps⟩ := inTime.started phase
    rw [← paces n] at bounds
    exact (inTime.now_le sweeps inside bounds).2 asleep
  · intro stuck n
    have none : (c.before choices n).pace = 0 := by
      rw [paces n]
      exact Nat.le_zero.mp (stuck ▸ c.pace_le)
    refine ⟨fun asleep task sweeper => ?_, fun ticket request id times => ?_⟩
    · obtain ⟨_ | due, sweeps⟩ := sweeper
      · exact (tended n).not_starting asleep sweeps
      · exact (tended n).not_sweeps none sweeps
    · obtain ⟨⟨task, due, _, sweeps⟩, _⟩ := times.of_timeout
      exact (tended n).not_sweeps none sweeps

/-- A coordinator that has time between two sweeps or none, and whose stops wait for nobody. -/
def impatient (interval : Duration) : Coordinator :=
  create { (default : CoordinatorConfig) with
    sweepInterval := interval, shutdownGrace := Duration.ofMillis 0 } default fun _ => ""

/-- A stop gives the sweeper up before its first turn, and the coordinator is started again. A
request is registered, and time passes. -/
def startedAgain : List Choice :=
  [.start, .spawn .stop, .turn 2, .start, .turn 3, .turn 4,
   .register default "a" (Duration.ofMillis 5), .turn 5, .elapse 1000000000]

/-- With a second between two sweeps the new sweeper waits for the next one, and the request is not
out of time. With none nobody sweeps, and the request is still there long after its deadline. -/
theorem sole_sweeper_startedAgain :
    (∀ choice ∈ startedAgain, choice.isCall) ∧
      (impatient (Duration.ofMillis 1000)).Prompt startedAgain ∧
      (∃ task due, ((impatient (Duration.ofMillis 1000)).before startedAgain 8).SweepsAgain task
        due) ∧
      (∀ entry ∈ ((impatient (Duration.ofMillis 1000)).before startedAgain 8).registry.entries,
        ∀ latest, (impatient (Duration.ofMillis 1000)).Latest startedAgain entry.deadline latest →
          ((impatient (Duration.ofMillis 1000)).before startedAgain 8).now < latest) ∧
      ((impatient (Duration.ofMillis 0)).before startedAgain 9).lifecycle.phase = .started ∧
      (∃ entry ∈ ((impatient (Duration.ofMillis 0)).before startedAgain 9).registry.entries,
        entry.deadline = 5000000 ∧
          ((impatient (Duration.ofMillis 0)).before startedAgain 9).now = 1000000000) ∧
      ∀ task, ¬ ((impatient (Duration.ofMillis 0)).before startedAgain 9).Sweeper task := by
  have calls : ∀ choice ∈ startedAgain, choice.isCall := by decide
  have prompt : (impatient (Duration.ofMillis 1000)).Prompt startedAgain := by
    intro n instant there
    obtain ⟨rfl, rfl⟩ : n = 8 ∧ instant = 1000000000 := by
      have bound := (List.getElem?_eq_some_iff.mp there).1
      change n < 9 at bound
      interval_cases n <;> simp [startedAgain, eq_comm] at there ⊢
      exact there
    exact ⟨by decide +kernel, by decide +kernel⟩
  have patient : (impatient (Duration.ofMillis 1000)).KeepsSweeping startedAgain :=
    sole_sweeper _ default (fun _ => "") startedAgain calls
  have hasty : (impatient (Duration.ofMillis 0)).KeepsSweeping startedAgain :=
    sole_sweeper _ default (fun _ => "") startedAgain calls
  refine ⟨calls, prompt, ?_, ?_, by decide +kernel, ?_, ?_⟩
  · obtain ⟨task, due, again, _⟩ :=
      patient.started (by decide) 8 (by decide +kernel) (by decide +kernel)
    exact ⟨task, due, again⟩
  · exact patient.bounded (by decide) prompt 8 (by decide +kernel) (by decide +kernel)
  · exact ⟨_, .head _, by decide +kernel, by decide +kernel⟩
  · exact (hasty.stuck (by decide) 9).1 (by decide +kernel)

end Coordinator

end Mediation
