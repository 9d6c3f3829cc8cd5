import Mathlib.Tactic.Tauto
import Mediation.Proofs.Coordinator.Tasks

/-!
# What starts and stops leave alone

The turn of a task touches no other task, except that a stop that is over gives up those it has
waited for in vain (`Apart`). The turn of a stop does one of few things. If the coordinator does not
run, it ends. Otherwise it raises the signal, and from then on it waits, panics because the clock
cannot hold its time of grace, or is over (`Ceases`). A start begins two tasks, one of which sweeps
(`Starts`).
-/

set_option autoImplicit false

namespace Mediation.Coordinator

variable {c d e : Coordinator} {task other : TaskId} {job : Job} {gone tasks : List TaskId}

/-- What a task has reported, the latest first. -/
def reports (c : Coordinator) (task : TaskId) : List Report :=
  (c.ended.filter fun ended => ended.task = task).map (·.report)

/-- From `c` to `d` one task has taken its turn, and some others were given up. All that remain
stand where they stood, those among them can run for whom something has come that they wait for, new
ones carry replies, and nobody else has reported. -/
structure Apart (task : TaskId) (gone : List TaskId) (c d : Coordinator) : Prop where
  begun : c.begun ≤ d.begun
  numbered : c.Numbered → d.Numbered
  job?_iff : ∀ {other job}, other ≠ task → job.isErrand = false →
    (d.job? other = some job ↔ other ∉ gone ∧ c.job? other = some job)
  missing : ∀ {other}, other < c.begun → c.job? other = none → d.job? other = none
  ready : ∀ {other}, other ≠ task → other ∉ gone → other ∈ c.ready → other ∈ d.ready
  rouses : ∀ {other job}, other ≠ task → other ∉ gone → c.job? other = some job → d.Cued job →
    c.Cued job ∨ other ∈ d.ready
  reports : ∀ {other}, other ≠ task → d.reports other = c.reports other
  config : d.config = c.config
  now : d.now = c.now
  dissolved : d.dissolved = c.dissolved

theorem Apart.trans {more : List TaskId} (first : Apart task gone c d)
    (second : Apart task more d e) : Apart task (gone ++ more) c e where
  begun := Nat.le_trans first.begun second.begun
  numbered := second.numbered ∘ first.numbered
  job?_iff apart lasting := by
    rw [second.job?_iff apart lasting, first.job?_iff apart lasting, List.mem_append]
    tauto
  missing old ended := second.missing (Nat.lt_of_lt_of_le old first.begun) (first.missing old ended)
  ready apart stays can := by
    rw [List.mem_append, not_or] at stays
    exact second.ready apart stays.2 (first.ready apart stays.1 can)
  rouses apart stays standing cued := by
    rw [List.mem_append, not_or] at stays
    have between := (first.job?_iff apart cued.lasting).mpr ⟨stays.1, standing⟩
    rcases second.rouses apart stays.2 between cued with before | can
    · exact (first.rouses apart stays.1 standing before).imp_right (second.ready apart stays.2)
    · exact .inr can
  reports apart := (second.reports apart).trans (first.reports apart)
  config := second.config.trans first.config
  now := second.now.trans first.now
  dissolved := second.dissolved.trans first.dissolved

theorem Tends.apart (tends : Tends c d) (task : TaskId) : Apart task [] c d where
  begun := tends.begun
  numbered := tends.numbered
  job?_iff _ lasting := by simp [tends.job?_iff lasting]
  missing {other} old ended := by
    cases standing : d.job? other with
    | none => rfl
    | some job =>
        rcases tends.old standing with there | ⟨new, _⟩
        · rw [ended] at there
          simp at there
        · exact absurd old (Nat.not_lt.mpr new)
  ready _ _ can := tends.ready can
  rouses _ _ standing cued := tends.rouses standing cued
  reports _ := by rw [reports, tends.ended, reports]
  config := tends.config
  now := tends.now
  dissolved := tends.dissolved

/-- What tasks wait for does not change with those that can run, or with the phase. -/
theorem Cued.of_eq (cued : d.Cued job) (now : d.now = c.now := by rfl)
    (replyAddress : d.replyAddress = c.replyAddress := by rfl)
    (handoffs : d.handoffs = c.handoffs := by rfl) : c.Cued job :=
  cued_of_same now replyAddress (fun ticket => by rw [verdict?, handoffs, verdict?]) cued

/-- A move that changes neither the tasks nor what they wait for, and wakes all others but one. -/
theorem apart_of_same (tasks : d.tasks = c.tasks) (begun : d.begun = c.begun)
    (ready : ∀ other ∈ c.ready, other ≠ task → other ∈ d.ready)
    (cued : ∀ job, d.Cued job → c.Cued job) (ended : d.ended = c.ended)
    (config : d.config = c.config) (now : d.now = c.now) (dissolved : d.dissolved = c.dissolved) :
    Apart task [] c d where
  begun := Nat.le_of_eq begun.symm
  numbered numbered := by rwa [Numbered, tasks, begun]
  job?_iff _ _ := by simp [job?, tasks]
  missing _ ended := by rwa [job?, tasks]
  ready apart _ can := ready _ can apart
  rouses _ _ _ again := .inl (cued _ again)
  reports _ := by rw [reports, ended, reports]
  config := config
  now := now
  dissolved := dissolved

theorem apart_called (c : Coordinator) (task : TaskId) : Apart task [] c (c.called task) :=
  apart_of_same rfl rfl (fun _ can apart => List.mem_filter.mpr ⟨can, by simpa using apart⟩)
    (fun _ cued => cued.of_eq) rfl rfl rfl rfl

theorem apart_withSignal (c : Coordinator) (task : TaskId) (lifecycle : Lifecycle) :
    Apart task [] c (c.withSignal lifecycle) :=
  apart_of_same rfl rfl (fun _ can _ => ready_subset_wake _ _ can) (fun _ cued => cued.of_eq) rfl
    rfl rfl rfl

theorem apart_park (c : Coordinator) (task : TaskId) (job : Job) :
    Apart task [] c (c.park task job) where
  begun := Nat.le_refl _
  numbered numbered := numbered.park task job
  job?_iff apart _ := by simp [job?_park, apart]
  missing {other} _ ended := by
    rw [job?_park]
    split
    · next own => rw [← own, ended, Option.map_none]
    · exact ended
  ready _ _ can := can
  rouses _ _ _ cued := .inl cued.of_eq
  reports _ := rfl
  config := rfl
  now := rfl
  dissolved := rfl

theorem reports_finish (c : Coordinator) (task : TaskId) (report : Report) (other : TaskId) :
    (c.finish task report).reports other =
      if task = other then report :: c.reports other else c.reports other := by
  change List.map _ (List.filter _ ({ task, instant := c.now, report } :: c.ended)) = _
  rw [List.filter_cons]
  by_cases same : task = other <;> simp [same, reports]

theorem apart_finish (c : Coordinator) (task : TaskId) (report : Report) :
    Apart task [] c (c.finish task report) where
  begun := Nat.le_refl _
  numbered numbered := numbered.finish task report
  job?_iff apart _ := by simp [c.job?_finish_of_ne report apart]
  missing {other} _ ended := by
    by_cases own : other = task
    · rw [own, job?_finish]
    · rwa [c.job?_finish_of_ne report own]
  ready apart _ can :=
    ready_subset_wake _ _ (List.mem_filter.mpr ⟨can, by simpa using apart⟩)
  rouses _ _ _ cued := .inl cued.of_eq
  reports apart := by rw [reports_finish, if_neg apart.symm]
  config := rfl
  now := rfl
  dissolved := rfl

theorem apart_discard (c : Coordinator) (gone : List TaskId) (task : TaskId) :
    Apart task gone c (c.discard gone) where
  begun := Nat.le_refl _
  numbered numbered := numbered.discard gone
  job?_iff _ _ := by simp [job?_discard]
  missing _ ended := by simp [job?_discard, ended]
  ready _ stays can := List.mem_filter.mpr ⟨can, by simpa using stays⟩
  rouses _ _ _ cued := .inl cued.of_eq
  reports _ := rfl
  config := rfl
  now := rfl
  dissolved := rfl

/-- A task that begins is nobody who was there. -/
theorem apart_spawn (c : Coordinator) (job : Job) : Apart c.begun [] c (c.spawn job).1 where
  begun := Nat.le_succ _
  numbered numbered := numbered.spawn job
  job?_iff apart _ := by simp [job?_spawn, apart.symm]
  missing old ended := by simp [job?_spawn, ended, Nat.ne_of_gt old]
  ready _ _ can := List.mem_append_left _ can
  rouses _ _ _ cued := .inl cued.of_eq
  reports _ := rfl
  config := rfl
  now := rfl
  dissolved := rfl

/-- Besides nobody was given up, and the coordinator runs as before. -/
structure Beside (task : TaskId) (c d : Coordinator) : Prop extends Apart task [] c d where
  lifecycle : d.lifecycle = c.lifecycle
  background : d.background = c.background

theorem Beside.trans (first : Beside task c d) (second : Beside task d e) : Beside task c e where
  toApart := first.toApart.trans second.toApart
  lifecycle := second.lifecycle.trans first.lifecycle
  background := second.background.trans first.background

theorem Tends.beside (tends : Tends c d) (task : TaskId) : Beside task c d :=
  ⟨tends.apart task, tends.lifecycle, tends.background⟩

theorem beside_called (c : Coordinator) (task : TaskId) : Beside task c (c.called task) :=
  ⟨c.apart_called task, rfl, rfl⟩

theorem beside_park (c : Coordinator) (task : TaskId) (job : Job) :
    Beside task c (c.park task job) :=
  ⟨c.apart_park task job, rfl, rfl⟩

theorem beside_finish (c : Coordinator) (task : TaskId) (report : Report) :
    Beside task c (c.finish task report) :=
  ⟨c.apart_finish task report, rfl, rfl⟩

theorem beside_spawn (c : Coordinator) (job : Job) : Beside c.begun c (c.spawn job).1 :=
  ⟨c.apart_spawn job, rfl, rfl⟩

/-- **A turn that is not that of a stop** touches no other task. -/
theorem Acts.beside (acts : c.Acts task job d) : Beside task c d := by
  cases acts with
  | stays tends => exact tends.beside task
  | waits tends next _ _ _ => exact (tends.beside task).trans (beside_park _ task next)
  | ends tends report => exact (tends.beside task).trans (beside_finish _ task report)
  | @collects d tends ticket after verdict looks _ report =>
      have looked : Apart task [] d { d with handoffs := d.handoffs.set ticket after } :=
        apart_of_same rfl rfl (fun _ can _ => can)
          (fun _ => cued_of_same (d := { d with handoffs := _ }) rfl rfl (verdict?_looked looks))
          rfl rfl rfl rfl
      exact (tends.beside task).trans
        (Beside.trans ⟨looked, rfl, rfl⟩ (beside_finish _ task report))

/-! ## Stops -/

/-- A stop waits for some tasks to end. -/
def Joins (c : Coordinator) (task : TaskId) (tasks : List TaskId) : Prop :=
  ∃ deadline, c.job? task = some (.join tasks deadline)

theorem Apart.joins_iff (apart : Apart task gone c d) (different : other ≠ task) :
    d.Joins other tasks ↔ other ∉ gone ∧ c.Joins other tasks := by
  rw [Joins, Joins, ← exists_and_left]
  exact exists_congr fun deadline => apart.job?_iff different rfl

/-- What the turn of a stop comes to that waits for some tasks. When it is over, those that have not
ended are given up. -/
inductive Ceases (c : Coordinator) (task : TaskId) (tasks : List TaskId) : Coordinator → Prop
  | waits (deadline : Instant) : Ceases c task tasks (c.park task (.join tasks deadline))
  | panics : Ceases c task tasks (c.finish task (.panicked beyondClock))
  | ends {d : Coordinator} (gone : List TaskId) (among : gone ⊆ tasks)
      (finished : ∀ other ∈ tasks, other ∉ gone → c.job? other = none) (apart : Apart task gone c d)
      (uncollected : Uncollected c d) (ended : d.job? task = none)
      (empty : d.registry.entries = [])
      (lifecycle : d.lifecycle = c.lifecycle.completeStop)
      (background : d.background = c.background) : Ceases c task tasks d

theorem concludeStop_ceases {joined : Bool}
    (finished : joined = true → ∀ other ∈ tasks, c.job? other = none) :
    c.Ceases task tasks (c.concludeStop task tasks joined) := by
  have halts : ∀ (quiet : Coordinator) (report : Report),
      Apart task [] quiet ({ quiet.drain with
        lifecycle := quiet.drain.lifecycle.completeStop }.finish task report) := by
    intro quiet report
    have stopped : Apart task [] quiet.drain
        { quiet.drain with lifecycle := quiet.drain.lifecycle.completeStop } :=
      apart_of_same rfl rfl (fun _ can _ => can) (fun _ cued => cued.of_eq) rfl rfl rfl rfl
    exact ((quiet.tends_drain.apart task).trans stopped).trans (apart_finish _ task report)
  have halves : ∀ (quiet : Coordinator) (report : Report),
      Uncollected quiet ({ quiet.drain with
        lifecycle := quiet.drain.lifecycle.completeStop }.finish task report) :=
    fun quiet report => quiet.tends_drain.toUncollected.trans (uncollected_of_eq rfl)
  have stops : ∀ quiet : Coordinator, quiet.lifecycle = c.lifecycle →
      quiet.drain.lifecycle.completeStop = c.lifecycle.completeStop := fun quiet same => by
    rw [quiet.tends_drain.lifecycle, same]
  cases joined with
  | true =>
      exact .ends [] (List.nil_subset _) (fun other member _ => finished rfl other member)
        (halts c _) (halves c _) (job?_finish _ task _) (c.concludeStop_entries task tasks true)
        (stops c rfl) c.tends_drain.background
  | false =>
      let report : Report := .stopped (some (.shutdownTimeout tasks.length))
      have given := (c.apart_discard tasks task).trans (halts (c.discard tasks) report)
      rw [List.append_nil] at given
      have kept : Uncollected c (c.discard tasks) := uncollected_of_eq rfl
      exact .ends tasks (List.Subset.refl _) (fun _ member outside => absurd member outside) given
        (kept.trans (halves (c.discard tasks) report)) (job?_finish _ task _)
        (c.concludeStop_entries task tasks false) (stops (c.discard tasks) rfl)
        (c.discard tasks).tends_drain.background

theorem joinTasks_ceases (c : Coordinator) (task : TaskId) (tasks : List TaskId)
    (deadline : Instant) : c.Ceases task tasks (c.joinTasks task tasks deadline) := by
  unfold joinTasks
  split
  · next finished => exact concludeStop_ceases fun _ => by simpa using finished
  · split
    · exact concludeStop_ceases (by simp)
    · exact .waits deadline

/-- **A stop that begins** ends if the coordinator does not run; otherwise it raises the signal. -/
theorem beginStop_ceases (c : Coordinator) (task : TaskId) :
    c.lifecycle.runAllowed = false ∧ c.beginStop task = c.finish task (.stopped none) ∨
      c.lifecycle.runAllowed = true ∧
        (c.withSignal { c.lifecycle with phase := .stopping, signal := true }).Ceases task
          c.background (c.beginStop task) := by
  cases running : c.lifecycle.runAllowed with
  | false => exact .inl ⟨rfl, beginStop_refused (by simp [Lifecycle.beginStop?, running])⟩
  | true =>
      refine .inr ⟨rfl, ?_⟩
      have begun : c.lifecycle.beginStop? =
          some { c.lifecycle with phase := .stopping, signal := true } := by
        simp [Lifecycle.beginStop?, running]
      cases timer : c.now.giveUp? c.config.shutdownGrace with
      | some deadline =>
          rw [beginStop_timed begun timer]
          exact joinTasks_ceases _ task c.background deadline
      | none =>
          rw [beginStop_untimed begun timer]
          split
          · next finished =>
              have ended : ∀ other ∈ c.background, c.job? other = none := by simpa using finished
              exact concludeStop_ceases fun _ => ended
          · exact .panics

/-! ## Starts -/

/-- A start that goes through: the search for the reply address begins, and the sweeper. -/
structure Starts (c d : Coordinator) : Prop where
  idle : c.lifecycle.phase = .created ∨ c.lifecycle.phase = .stopped
  phase : d.lifecycle.phase = .started
  signal : d.lifecycle.signal = false
  begun : d.begun = c.begun + 2
  background : d.background = c.background ++ [c.begun, c.begun + 1]
  numbered : c.Numbered → d.Numbered
  job? : ∀ other, d.job? other = ((c.job? other).or
    (if c.begun = other then some (.resolve none) else none)).or
      (if c.begun + 1 = other then some (.sweep none) else none)
  ready : d.ready = c.ready ++ [c.begun] ++ [c.begun + 1]
  handoffs : d.handoffs = c.handoffs
  replyAddress : d.replyAddress = c.replyAddress
  ended : d.ended = c.ended
  entries : d.registry.entries = c.registry.entries
  config : d.config = c.config
  now : d.now = c.now
  dissolved : d.dissolved = c.dissolved

theorem start_eq_ok {component lifecycle : Lifecycle} (starts : component.start = .ok lifecycle) :
    (component.phase = .created ∨ component.phase = .stopped) ∧ lifecycle.phase = .started ∧
      lifecycle.signal = false := by
  obtain ⟨name, phase, signal⟩ := component
  cases phase <;>
    simp [Lifecycle.start, Lifecycle.beginStart, Lifecycle.completeStart] at starts ⊢ <;>
    simp [← starts]

/-- **A start** goes through, or does nothing. -/
theorem step_start_cases (c : Coordinator) : c.step .start = c ∨ Starts c (c.step .start) := by
  cases starts : c.lifecycle.start with
  | error refusal =>
      left
      simp [step, Coordinator.start, starts]
  | ok lifecycle =>
      right
      obtain ⟨idle, phase, signal⟩ := start_eq_ok starts
      let listening := { c with lifecycle, transport := c.transport.listen }
      let resolving := (listening.spawn (.resolve none)).1
      let sweeping := (resolving.spawn (.sweep none)).1
      have shape : c.step .start =
          { sweeping with background := c.background ++ [c.begun, c.begun + 1] } := by
        simp [step, Coordinator.start, starts, spawn, sweeping, resolving, listening]
      have jobs : ∀ other, sweeping.job? other = ((listening.job? other).or
          (if c.begun = other then some (.resolve none) else none)).or
            (if c.begun + 1 = other then some (.sweep none) else none) := fun other => by
        rw [← listening.job?_spawn (.resolve none) other]
        exact resolving.job?_spawn (.sweep none) other
      rw [shape]
      exact
        { idle, phase, signal
          begun := rfl
          background := rfl
          numbered := fun numbered =>
            (Numbered.spawn (c := listening) numbered (.resolve none)).spawn (.sweep none)
          job? := jobs
          ready := rfl
          handoffs := rfl
          replyAddress := rfl
          ended := rfl
          entries := rfl
          config := rfl
          now := rfl
          dissolved := rfl }

end Mediation.Coordinator
