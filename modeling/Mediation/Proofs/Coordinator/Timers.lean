import Mediation.Proofs.Coordinator.Returning

/-!
# Timers that fire

Whoever waits for a time has a timer that is still to fire, or can run (`Timely`). Time that passes
wakes those whose timers have fired (`Timely.elapse`), and a task that waits on after a turn waits
for a later time (`Later`, `Turned.timely`). So when no task can run, the clock has not come to the
next timer yet (`Timely.lt_timer`).
-/

set_option autoImplicit false

namespace Mediation.Coordinator

variable {c d : Coordinator} {task : TaskId} {settings : Loopback} {flights : List Flight}
  {job next : Job} {entry : TaskId × Job}

/-- The time between two sweeps: no longer than the settings say, and none only if they say so. -/
def pace (c : Coordinator) : Nat := (c.config.sweepInterval.shorter Instant.longestSleep).totalNanos

/-- What a task waits for comes later, and if it sweeps, so does its next sweep. -/
structure Later (c : Coordinator) (entry : TaskId × Job) : Prop where
  due : ∀ due, Job.due? c.registry entry.1 entry.2 = some due → c.now < due
  paced : ∀ next, entry.2 = .sweep (some next) → c.pace ≠ 0

/-- **Whoever's timer has fired can run.** -/
structure Timely (c : Coordinator) : Prop where
  fired : ∀ timer ∈ c.timers, timer.1 ≤ c.now → timer.2 ∈ c.ready
  paced : ∀ task next, (task, .sweep (some next)) ∈ c.tasks → c.pace ≠ 0

theorem mem_timers {timer : Instant × TaskId} : timer ∈ c.timers ↔
    ∃ entry ∈ c.tasks, ∃ due, Job.due? c.registry entry.1 entry.2 = some due ∧
      timer = (Instant.tick due, entry.1) := by
  rw [timers, List.mem_filterMap]
  refine exists_congr fun entry => and_congr_right fun _ => ?_
  rw [Option.map_eq_some_iff]
  exact exists_congr fun due => and_congr_right fun _ => eq_comm

theorem timer_of_job? (standing : c.job? task = some job) {due : Instant}
    (waits : Job.due? c.registry task job = some due) : (Instant.tick due, task) ∈ c.timers := by
  obtain ⟨entry, found, rfl⟩ := Option.map_eq_some_iff.mp standing
  have own : entry.1 = task := by simpa using List.find?_some found
  exact mem_timers.mpr ⟨entry, List.mem_of_find?_eq_some found, due, own ▸ waits, own ▸ rfl⟩

theorem due?_of_same (same : d.registry.waits = c.registry.waits) (task : TaskId) (job : Job) :
    Job.due? d.registry task job = Job.due? c.registry task job := by
  cases job <;> simp [Job.due?, same]

/-- When no task can run, all timers are still to fire. -/
theorem Timely.lt_timer (timely : c.Timely) (asleep : c.ready = []) :
    ∀ timer ∈ c.timers, c.now < timer.1 := fun timer inside =>
  Nat.lt_of_not_le fun fires => absurd (asleep ▸ timely.fired timer inside fires) List.not_mem_nil

/-- A task has taken a turn: the others wait as before, and what is new waits for later. -/
theorem Timely.keep (timely : c.Timely) (waits : d.registry.waits = c.registry.waits)
    (config : d.config = c.config) (now : d.now = c.now)
    (tasks : ∀ entry ∈ d.tasks, entry ∈ c.tasks ∧ entry.1 ≠ task ∨ d.Later entry)
    (ready : ∀ other ∈ c.ready, other ≠ task → other ∈ d.ready) : d.Timely where
  fired timer inside fires := by
    obtain ⟨entry, member, due, waiting, rfl⟩ := mem_timers.mp inside
    rcases tasks entry member with ⟨old, apart⟩ | later
    · rw [due?_of_same waits] at waiting
      have before := timely.fired _ (mem_timers.mpr ⟨entry, old, due, waiting, rfl⟩) (now ▸ fires)
      exact ready _ before apart
    · have reached := Nat.le_trans (Instant.le_tick due) fires
      exact absurd reached (Nat.not_le.mpr (later.due due waiting))
  paced number next member := by
    rcases tasks _ member with ⟨old, _⟩ | later
    · rw [pace, config]
      exact timely.paced number next old
    · exact later.paced next rfl

/-- No task has taken a turn, and what is new waits for later. -/
theorem Timely.grow (timely : c.Timely) (orderly : c.Orderly)
    (waits : d.registry.waits = c.registry.waits) (config : d.config = c.config)
    (now : d.now = c.now) (tasks : ∀ entry ∈ d.tasks, entry ∈ c.tasks ∨ d.Later entry)
    (ready : ∀ other ∈ c.ready, other ∈ d.ready) : d.Timely :=
  timely.keep waits config now
    (fun entry member => (tasks entry member).imp_left fun old =>
      ⟨old, Nat.ne_of_lt (orderly.begun entry old)⟩)
    fun other inside _ => ready other inside

theorem Timely.elapse (timely : c.Timely) (instant : Instant) : (c.elapse instant).Timely where
  fired _ inside fires := ready_elapse inside fires
  paced := timely.paced

theorem Timely.publish (timely : c.Timely) (orderly : c.Orderly) (address : String) :
    (c.publish address).Timely :=
  timely.grow orderly rfl rfl rfl (fun _ => .inl) fun _ inside => mem_wake.mpr (.inl inside)

theorem Timely.leaves (timely : c.Timely) (leaves : Leaves task c d) : d.Timely :=
  timely.keep leaves.waits leaves.config leaves.now
    (fun entry member => .inl ((leaves.tasks entry).mp member)) leaves.ready

/-! ## Turns of the coordinator's own tasks -/

theorem mem_park (member : entry ∈ (c.park task job).tasks) :
    entry ∈ c.tasks ∧ entry.1 ≠ task ∨ entry = (task, job) := by
  obtain ⟨before, inside, rfl⟩ := List.mem_map.mp member
  split
  · exact .inr rfl
  · next apart => exact .inl ⟨inside, apart⟩

/-- A task that waits for no time. -/
theorem later_of_idle (idle : Job.due? c.registry entry.1 entry.2 = none) : c.Later entry where
  due _ waiting := by
    rw [idle] at waiting
    simp at waiting
  paced next same := by
    rw [same] at idle
    simp [Job.due?] at idle

theorem later_sweep {next : Instant} (later : c.now < next) (paced : c.pace ≠ 0) :
    c.Later (task, .sweep (some next)) where
  due _ waiting := Option.some.inj waiting ▸ later
  paced _ _ := paced

theorem lt_sweepAfter {next now interval : Nat} (paced : interval ≠ 0) :
    now < sweepAfter next now interval := by
  unfold sweepAfter
  split
  · exact Nat.lt_add_of_pos_right (Nat.pos_of_ne_zero paced)
  · have far := Nat.lt_mul_div_succ (now - next) (Nat.pos_of_ne_zero paced)
    rw [Nat.mul_comm] at far
    omega

/-- The sweeper waits for its next sweep. -/
theorem later_runSweeper (orderly : c.Orderly) {next : Option Instant}
    (inside : (task, .sweep next) ∈ c.tasks) (dissolved : c.dissolved = false)
    (paced : ∀ instant, next = some instant → c.pace ≠ 0)
    (young : ∀ entry ∈ c.registry.entries, c.now < entry.deadline)
    (member : entry ∈ (c.runSweeper task next).tasks) :
    entry ∈ c.tasks ∧ entry.1 ≠ task ∨ c.Later entry := by
  have ends : ∀ report, entry ∈ (c.finish task report).tasks →
      entry ∈ c.tasks ∧ entry.1 ≠ task ∨ c.Later entry := fun _ member =>
    .inl (mem_finish_tasks.mp member)
  have waits : ∀ instant, c.now < instant → c.pace ≠ 0 →
      entry ∈ (c.park task (.sweep (some instant))).tasks →
        entry ∈ c.tasks ∧ entry.1 ≠ task ∨ c.Later entry := by
    intro instant later paced member
    refine (mem_park member).imp_right ?_
    rintro rfl
    exact later_sweep later paced
  cases next with
  | none =>
      simp only [runSweeper] at member
      split at member
      · exact ends _ member
      · next lasts =>
          split at member
          · exact ends _ member
          · exact waits _ (Nat.lt_add_of_pos_right (Nat.pos_of_ne_zero lasts)) lasts member
  | some next =>
      have lasts := paced next rfl
      simp only [runSweeper] at member
      split at member
      · rw [sweepAt_eq_self young] at member
        split at member
        · exact ends _ member
        · exact waits _ (lt_sweepAfter lasts) lasts member
      · next early =>
          split at member
          · exact ends _ member
          · refine waits next ?_ lasts ?_
            · simpa [dissolved] using early
            · rwa [park_eq_self fun other within same =>
                List.inj_on_of_nodup_map orderly.distinct within inside same]

/-- The search for the reply address waits for its end. -/
theorem later_runResolver {due : Option Instant}
    (member : entry ∈ (c.runResolver task due).tasks) :
    entry ∈ c.tasks ∧ entry.1 ≠ task ∨ c.Later entry := by
  unfold runResolver at member
  generalize c.transport.resolution = resolution at member
  obtain ⟨time, found⟩ := resolution
  simp only at member
  split at member
  · cases found with
    | error failure => exact .inl (mem_finish_tasks.mp member)
    | ok address =>
        simp only at member
        split at member
        · exact .inl (mem_finish_tasks.mp member)
        · have told : entry ∈ (c.publish address).tasks ∧ entry.1 ≠ task :=
            mem_finish_tasks.mp member
          exact .inl told
  · next early =>
      split at member
      · exact .inl (mem_finish_tasks.mp member)
      · refine (mem_park member).imp_right ?_
        rintro rfl
        exact ⟨fun due waiting => Option.some.inj waiting ▸ Nat.lt_of_not_le early, by simp⟩

theorem Later.of_same (later : c.Later entry) (waits : d.registry.waits = c.registry.waits)
    (config : d.config = c.config) (now : d.now = c.now) : d.Later entry where
  due due waiting := by
    rw [due?_of_same waits] at waiting
    rw [now]
    exact later.due due waiting
  paced next same := by
    rw [pace, config]
    exact later.paced next same

/-- **A turn of one of the coordinator's own tasks.** -/
theorem Timely.background (timely : c.Timely) (orderly : c.Orderly)
    (dissolved : c.dissolved = false)
    (young : ∀ entry ∈ c.registry.entries, c.now < entry.deadline)
    (inside : (task, job) ∈ c.tasks) (own : Job.isBackground job = true) :
    ((c.called task).runJob task job).Timely := by
  have still : (c.called task).Orderly := ⟨orderly.distinct, orderly.begun, orderly.live⟩
  have passes := passes_background orderly inside own young
  have now := c.now_runJob_of_background task own
  refine timely.keep passes.waits passes.config now (fun entry member => ?_) passes.ready
  have later : entry ∈ c.tasks ∧ entry.1 ≠ task ∨ (c.called task).Later entry := by
    obtain ⟨next, rfl⟩ | ⟨due, rfl⟩ := isBackground_cases own
    · exact later_runSweeper still inside dissolved
        (fun instant same => timely.paced task instant (same ▸ inside)) young member
    · exact later_runResolver member
  exact later.imp_right fun later => later.of_same passes.waits passes.config now

/-! ## Turns -/

theorem later_of_spent (spent : c.Spent job) (foreign : Job.isBackground job = false) :
    c.Later (task, job) := by
  cases job with
  | suspended index => exact later_of_idle rfl
  | carried message due => exact ⟨fun _ waiting => Option.some.inj waiting ▸ spent, by simp⟩
  | _ => simp [Spent, foreign] at spent

theorem later_errand (flight : Flight) (settings : Loopback) (index : Nat)
    (instant : flight.instant = c.now) :
    c.Later (task, flight.errand settings index) := by
  rcases errand_cases flight settings index with ⟨_, errand, _⟩ | ⟨lasts, errand, _⟩
  · rw [errand]
    exact later_of_idle rfl
  · rw [errand]
    refine ⟨fun due waiting => ?_, by simp⟩
    rw [← Option.some.inj waiting, ← instant]
    exact Instant.lt_wakeUp lasts

/-- **Every turn** leaves those who can run whose timers have fired. -/
theorem Turned.timely (turned : c.Turned settings flights task d)
    (serves : c.Serves settings flights) (timely : c.Timely) : d.Timely := by
  cases turned with
  | idle launches spent =>
      refine timely.keep rfl rfl rfl (fun entry member => ?_) (c.passes_called task).ready
      by_cases own : entry.1 = task
      · obtain ⟨number, job⟩ := entry
        subst own
        obtain ⟨spent, foreign⟩ := spent job member
        exact .inr ((later_of_spent spent foreign).of_same rfl rfl rfl)
      · exact .inl ⟨member, own⟩
  | background launches inside own =>
      exact timely.background serves.orderly serves.serving.dissolved serves.young inside own
  | launched launches inside own carrier instant launched =>
      subst own
      have waits := launched.waits.trans serves.serving.waits.symm
      refine timely.keep waits launched.config launched.now (fun entry member => ?_)
        fun other => launched.still_ready
      rcases launched.task_cases member with old | rfl | rfl
      · exact .inl old
      · exact .inr (later_of_idle rfl)
      · exact .inr (later_errand _ _ _ (instant.trans launched.now.symm))
  | delivered launches there own flying => exact timely.leaves (c.leaves_matched ..)
  | returned launches there own answered => exact timely.leaves (c.leaves_collected ..)

end Mediation.Coordinator
