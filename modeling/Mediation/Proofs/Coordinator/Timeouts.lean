import Mathlib.Tactic.IntervalCases
import Mediation.Proofs.Coordinator.Deadlines
import Mediation.Proofs.Coordinator.Sweepers

/-!
# Timeouts are neither early nor late

Under a clock that goes on only when no task can run, and stops at every timer, a request times out
in the turn of a sweeper, at its deadline or at most one sweep interval later
(`timeouts_keep_time`). Runs may stop and start the coordinator and move requests as they please.

The second half holds because whoever sweeps does so in time (`Watched`): the next sweep is at most
one interval away, and at most one interval after the deadline of everyone who waits. This is so
after a start, when nobody waits; after a registration, whose deadline is not before now; and after
a sweep, which takes out everyone whose deadline has come. Timers fire at whole milliseconds, so the
interval is exact if the starts happen at whole milliseconds too (`Latest`).
-/

set_option autoImplicit false

namespace Mediation.Coordinator

variable {c d : Coordinator} {unit : Nat} {settings : CoordinatorConfig} {task other : TaskId}
  {next : Option Instant} {books : List (Exchange × Duration)} {choices : List Choice}
  {choice : Choice} {ticket : Ticket} {request : Exchange × Duration} {n m : Nat}

/-! ## Sweeps come in time -/

/-- A task that sweeps is about to start, or its next sweep comes at most one pace after the
deadline of everyone who waits, and its timer is still to fire. Starts and sweeps happen at
multiples of a unit. -/
inductive InTime (c : Coordinator) (unit : Nat) (task : TaskId) : Option Instant → Prop
  | starts (ready : task ∈ c.ready) (aligned : unit ∣ c.now)
      (young : ∀ entry ∈ c.registry.entries, c.now ≤ entry.deadline) : InTime c unit task none
  | waits {due : Instant} (aligned : unit ∣ due) (before : c.now ≤ Instant.tick due)
      (fires : c.now = Instant.tick due → task ∈ c.ready) (near : due ≤ c.now + c.pace)
      (reaches : ∀ entry ∈ c.registry.entries, due ≤ entry.deadline + c.pace) :
      InTime c unit task (some due)

/-- **Whoever sweeps does so in time.** While the coordinator is started, there is someone who
sweeps; before and after, nobody waits. -/
structure Watched (unit : Nat) (settings : CoordinatorConfig) (c : Coordinator) : Prop where
  config : c.config = settings
  numbered : c.Numbered
  dissolved : c.dissolved = false
  paced : c.pace ≠ 0
  aligned : unit ∣ c.pace
  inTime : ∀ task next, c.Sweeps task next → c.InTime unit task next
  started : c.lifecycle.phase = .started →
    c.lifecycle.signal = false ∧ ∃ task next, c.Sweeps task next
  empty : c.lifecycle.phase = .created ∨ c.lifecycle.phase = .stopped → c.registry.entries = []

theorem watched_create {config : CoordinatorConfig} {transport : Transport} {naming : Nat → String}
    (paced : (create config transport naming).pace ≠ 0)
    (aligned : unit ∣ (create config transport naming).pace) :
    (create config transport naming).Watched unit config where
  numbered := by simp [Numbered, create]
  dissolved := rfl
  paced := paced
  aligned := aligned
  config := rfl
  inTime _ _ sweeps := by simp [Sweeps, job?, create] at sweeps
  started phase := by simp [create, Lifecycle.create] at phase
  empty _ := rfl

theorem Watched.pace_eq (watched : c.Watched unit settings) (other : d.Watched unit settings) :
    c.pace = d.pace := by
  rw [pace, watched.config, pace, other.config]

/-- Those who wait are as before, or have all their time left. -/
theorem Ages.deadline {entry : Pending} (ages : Ages c d) (inside : entry ∈ d.registry.entries) :
    (∃ old ∈ c.registry.entries, entry.deadline = old.deadline) ∨ c.now ≤ entry.deadline := by
  refine (ages entry inside).imp ?_ ?_
  · rintro ⟨old, there, kin⟩
    exact ⟨old, there, kin.deadline⟩
  · intro registers
    rw [registers.deadline]
    exact Nat.le_add_right _ _

/-- Nobody begins to wait unless the coordinator runs. -/
theorem Watched.empty_of_ages (watched : c.Watched unit settings) (ages : Ages c d)
    (idle : c.lifecycle.phase = .created ∨ c.lifecycle.phase = .stopped) :
    d.registry.entries = [] := by
  refine List.eq_nil_iff_forall_not_mem.mpr fun entry inside => ?_
  rcases ages entry inside with ⟨old, there, _⟩ | registers
  · rw [watched.empty idle] at there
    exact absurd there List.not_mem_nil
  · have running := registers.running
    rcases idle with phase | phase <;>
      simp [Lifecycle.runAllowed, Phase.runAllowed, phase] at running

/-- A sweep that comes in time does so whatever happens to those who wait. -/
theorem InTime.keep (inTime : c.InTime unit task next) (config : d.config = c.config)
    (now : d.now = c.now) (ages : Ages c d) (ready : task ∈ c.ready → task ∈ d.ready) :
    d.InTime unit task next := by
  have pace : d.pace = c.pace := by rw [pace, config, pace]
  cases inTime with
  | starts can aligned young =>
      refine .starts (ready can) (now ▸ aligned) fun entry inside => ?_
      rw [now]
      rcases ages.deadline inside with ⟨old, there, same⟩ | fresh
      · rw [same]
        exact young old there
      · exact fresh
  | waits aligned before fires near reaches =>
      refine .waits aligned (now ▸ before) (fun same => ready (fires (now ▸ same)))
        (by rwa [now, pace]) fun entry inside => ?_
      rw [pace]
      rcases ages.deadline inside with ⟨old, there, same⟩ | fresh
      · rw [same]
        exact reaches old there
      · exact Nat.le_trans near (Nat.add_le_add_right fresh _)

/-- What has to be shown of an event: whoever sweeps afterwards did so before, or does so in time,
and the phases are as they should be. -/
theorem Watched.keep (watched : c.Watched unit settings) (numbered : d.Numbered)
    (config : d.config = c.config) (dissolved : d.dissolved = c.dissolved)
    (inTime : ∀ task next, d.Sweeps task next → d.InTime unit task next)
    (started : d.lifecycle.phase = .started →
      d.lifecycle.signal = false ∧ ∃ task next, d.Sweeps task next)
    (empty : d.lifecycle.phase = .created ∨ d.lifecycle.phase = .stopped →
      d.registry.entries = []) : d.Watched unit settings where
  config := config.trans watched.config
  numbered := numbered
  dissolved := dissolved.trans watched.dissolved
  paced := by
    rw [pace, config]
    exact watched.paced
  aligned := by
    rw [pace, config]
    exact watched.aligned
  inTime := inTime
  started := started
  empty := empty

/-- Whoever went on sweeping still does so in time. -/
theorem Watched.still (watched : c.Watched unit settings) (thins : Thins task c d) (ages : Ages c d)
    (apart : other ≠ task) (sweeps : d.Sweeps other next) : d.InTime unit other next :=
  (watched.inTime other next (thins.old sweeps)).keep thins.config thins.now ages
    (thins.ready apart sweeps)

/-! ## Turns -/

/-- A turn of a task that does not sweep. -/
theorem Watched.aside (watched : c.Watched unit settings) (idle : ∀ next, ¬ c.Sweeps task next)
    (aside : Aside task c d) (ages : Ages c d) : d.Watched unit settings := by
  have apart : ∀ {other next}, c.Sweeps other next → other ≠ task := by
    rintro other next sweeps rfl
    exact idle next sweeps
  refine watched.keep (aside.numbered watched.numbered) aside.config aside.dissolved ?_ ?_ ?_
  · intro other next sweeps
    exact watched.still aside.toThins ages (apart (aside.old sweeps)) sweeps
  · rw [aside.lifecycle]
    intro phase
    obtain ⟨quiet, other, next, sweeps⟩ := watched.started phase
    exact ⟨quiet, other, next, aside.kept (apart sweeps) sweeps⟩
  · rw [aside.lifecycle]
    exact watched.empty_of_ages ages

/-- A turn of a stop. -/
theorem Watched.halts (watched : c.Watched unit settings) (idle : ∀ next, ¬ c.Sweeps task next)
    (halts : Halts task c d) (ages : Ages c d) : d.Watched unit settings := by
  refine watched.keep (halts.numbered watched.numbered) halts.config halts.dissolved ?_ ?_ ?_
  · intro other next sweeps
    refine watched.still halts.toThins ages ?_ sweeps
    rintro rfl
    exact idle next (halts.old sweeps)
  · intro phase
    rcases halts.halted with stopping | ⟨stopped, _⟩
    · simp [stopping] at phase
    · simp [stopped] at phase
  · intro idle
    rcases halts.halted with stopping | ⟨_, empty⟩
    · simp [stopping] at idle
    · exact empty

/-- A sweeper that sees the signal ends. -/
theorem Watched.ends (watched : c.Watched unit settings) (signalled : c.signalled = true)
    (aside : Aside task c d) (gone : d.job? task = none) (ages : Ages c d) :
    d.Watched unit settings := by
  refine watched.keep (aside.numbered watched.numbered) aside.config aside.dissolved ?_ ?_ ?_
  · intro other next sweeps
    refine watched.still aside.toThins ages ?_ sweeps
    rintro rfl
    rw [Sweeps, gone] at sweeps
    simp at sweeps
  · rw [aside.lifecycle]
    intro phase
    simp [Coordinator.signalled, (watched.started phase).1, watched.dissolved] at signalled
  · rw [aside.lifecycle]
    exact watched.empty_of_ages ages

/-- A sweeper waits for its next sweep. -/
theorem Watched.rearm (watched : c.Watched unit settings) {due : Instant} (aside : Aside task c d)
    (still : d.Sweeps task next) (ages : Ages c d) (aligned : unit ∣ due) (later : c.now < due)
    (near : due ≤ c.now + c.pace)
    (reaches : ∀ entry ∈ d.registry.entries, due ≤ entry.deadline + c.pace) :
    (d.park task (.sweep (some due))).Watched unit settings := by
  have own : (d.park task (.sweep (some due))).Sweeps task (some due) := by
    rw [Sweeps, job?_park, if_pos rfl, still, Option.map_some]
  have pace : (d.park task (.sweep (some due))).pace = c.pace := by
    change d.pace = c.pace
    rw [Coordinator.pace, aside.config, Coordinator.pace]
  have now : (d.park task (.sweep (some due))).now = c.now := aside.now
  have behind : c.now < Instant.tick due := Nat.lt_of_lt_of_le later (Instant.le_tick due)
  refine watched.keep ((aside.numbered watched.numbered).park _ _) aside.config aside.dissolved
    ?_ ?_ ?_
  · intro other waiting sweeps
    by_cases mine : other = task
    · subst mine
      obtain rfl : some due = waiting := by
        rw [Sweeps, own, Option.some_inj, Job.sweep.injEq] at sweeps
        exact sweeps
      refine .waits aligned ?_ (fun fires => ?_) ?_ fun entry inside => ?_
      · rw [now]
        exact Nat.le_of_lt behind
      · rw [now] at fires
        exact absurd fires (Nat.ne_of_lt behind)
      · rwa [now, pace]
      · rw [pace]
        exact reaches entry inside
    · have before : d.Sweeps other waiting := by
        rwa [Sweeps, job?_park, if_neg mine] at sweeps
      exact (watched.still aside.toThins ages mine before).keep rfl rfl (ages_of_eq rfl) id
  · intro phase
    change d.lifecycle.phase = _ at phase
    rw [aside.lifecycle] at phase
    have quiet : d.lifecycle.signal = false := by
      rw [aside.lifecycle]
      exact (watched.started phase).1
    exact ⟨quiet, task, _, own⟩
  · intro idle
    change d.lifecycle.phase = _ ∨ d.lifecycle.phase = _ at idle
    rw [aside.lifecycle] at idle
    exact watched.empty_of_ages ages idle

theorem sweepAfter_le {next now interval : Nat} (come : next ≤ now) :
    sweepAfter next now interval ≤ now + interval := by
  unfold sweepAfter
  split
  · exact Nat.le_refl _
  · have whole := Nat.div_mul_le_self (now - next) interval
    have reached : next + ((now - next) / interval * interval + interval) ≤ now + interval := by
      omega
    rwa [← Nat.succ_mul] at reached

/-- Where sweeps come with their timers, no interval begins anew. -/
theorem dvd_sweepAfter {next now interval : Nat} (inTime : now ≤ Instant.tick next)
    (first : unit ∣ next) (step : unit ∣ interval) : unit ∣ sweepAfter next now interval := by
  have soon : ¬ next + tolerance < now := by
    have within := Nat.lt_of_le_of_lt inTime (Instant.tick_lt next)
    simp only [tolerance, nanosPerMilli]
    omega
  rw [sweepAfter, if_neg soon]
  exact Nat.dvd_add first (Nat.dvd_mul_left_of_dvd step _)

/-- **A turn of a sweeper.** -/
theorem Watched.sweeper (watched : c.Watched unit settings) (sweeps : c.Sweeps task next) :
    ((c.called task).runSweeper task next).Watched unit settings := by
  have called : Aside task c (c.called task) := c.aside_called task
  have ends : ∀ {d : Coordinator}, Aside task c d → Ages c d → c.signalled = true →
      (d.finish task .over).Watched unit settings := fun aside ages signalled =>
    watched.ends signalled (aside.trans (aside_finish _ task _)) (job?_finish _ task _) ages
  have same : Ages c (c.called task) := ages_of_eq rfl
  cases next with
  | none =>
      obtain ⟨_, aligned, young⟩ := watched.inTime task none sweeps
      simp only [runSweeper]
      split
      · next stuck => exact absurd stuck watched.paced
      · split
        · next signalled => exact ends called same signalled
        · exact watched.rearm called sweeps same (Nat.dvd_add aligned watched.aligned)
            (Nat.lt_add_of_pos_right (Nat.pos_of_ne_zero watched.paced)) (Nat.le_refl _)
            fun entry inside => Nat.add_le_add_right (young entry inside) _
  | some due =>
      obtain _ | ⟨aligned, before, _, near, reaches⟩ := watched.inTime task (some due) sweeps
      simp only [runSweeper]
      split
      · next come =>
          have tends := (c.called task).tends_sweepAt c.now true
          have swept : Aside task c ((c.called task).sweepAt c.now true).1 :=
            called.trans tends.aside
          have fewer : Ages c ((c.called task).sweepAt c.now true).1 := by
            refine ages_of_subset ?_
            rw [sweepAt_registry]
            exact c.registry.sweep_subset c.now
          split
          · next signalled => exact ends swept fewer (tends.signalled.symm.trans signalled)
          · -- the moves of a sweep leave every task alone, also the sweeper's own
            have still : ((c.called task).sweepAt c.now true).1.Sweeps task (some due) :=
              tends.kept sweeps
            refine watched.rearm swept still fewer (dvd_sweepAfter before aligned watched.aligned)
              (lt_sweepAfter watched.paced) (sweepAfter_le come.1) fun entry inside => ?_
            rw [sweepAt_registry, Registry.sweep_entries, List.mem_filter] at inside
            have young : (c.called task).now < entry.deadline := by simpa using inside.2
            exact Nat.le_trans (sweepAfter_le come.1) (Nat.add_le_add_right (Nat.le_of_lt young) _)
      · next early =>
          split
          · next signalled => exact ends called same signalled
          · have behind : (c.called task).now < due := by
              have there : (c.called task).dissolved = false := watched.dissolved
              simpa [there] using early
            refine watched.keep watched.numbered rfl rfl ?_ watched.started watched.empty
            intro other waiting again
            by_cases mine : other = task
            · subst mine
              obtain rfl : some due = waiting := by
                rw [Sweeps] at sweeps again
                exact Job.sweep.inj (Option.some.inj (sweeps.symm.trans again))
              refine .waits aligned before (fun fires => ?_) near reaches
              exact absurd fires (Nat.ne_of_lt (Nat.lt_of_lt_of_le behind (Instant.le_tick due)))
            · exact watched.still called.toThins same mine again

/-- **Every turn** leaves those who sweep in time. -/
theorem Watched.turn (watched : c.Watched unit settings) (sound : c.Sound books [])
    (task : TaskId) : (c.turn task).Watched unit settings := by
  have ages := sound.ages_turn task
  have called := c.aside_called task
  cases standing : c.job? task with
  | none =>
      have idle : ∀ next, ¬ c.Sweeps task next := fun next sweeps => by
        rw [Sweeps, standing] at sweeps
        simp at sweeps
      rw [turn_of_ended standing] at ages ⊢
      exact watched.aside idle called ages
  | some job =>
      rw [turn_eq standing (sound.leads_called standing).sound.held] at ages ⊢
      cases kind : job.isSweep with
      | true =>
          cases job with
          | sweep next => exact watched.sweeper standing
          | _ => simp [Job.isSweep] at kind
      | false =>
          have idle : ∀ next, ¬ c.Sweeps task next := fun next sweeps => by
            rw [Sweeps, standing, Option.some_inj] at sweeps
            simp [sweeps, Job.isSweep] at kind
          rcases aside_runJob (c.called task) task kind with aside | halts
          · exact watched.aside idle (called.trans aside) ages
          · exact watched.halts idle ⟨called.toThins.trans halts.toThins, halts.halted⟩ ages

/-! ## Events -/

/-- Time that passes comes to no sweep too late. -/
theorem Watched.elapse (watched : c.Watched unit settings) {instant : Instant}
    (rests : c.Rests instant) : (c.elapse instant).Watched unit settings := by
  refine watched.keep watched.numbered rfl rfl ?_ watched.started watched.empty
  intro task next sweeps
  have before : c.Sweeps task next := sweeps
  cases watched.inTime task next before with
  | starts ready _ _ =>
      rw [rests.ready] at ready
      exact absurd ready List.not_mem_nil
  | @waits due aligned early fires near reaches =>
      have timer : (Instant.tick due, task) ∈ c.timers := before.timer
      have later : c.now ≤ (c.elapse instant).now := Nat.le_max_left _ _
      refine .waits aligned (Nat.max_le.mpr ⟨early, rests.timers _ timer⟩) (fun now => ?_)
        (Nat.le_trans near (Nat.add_le_add_right later _)) reaches
      exact ready_elapse timer (Nat.le_of_eq now.symm)

theorem Watched.start (watched : c.Watched unit settings) (aligned : unit ∣ c.now) :
    (c.step .start).Watched unit settings := by
  rcases c.step_start_cases with same | starts
  · rwa [same]
  · have nobody : c.registry.entries = [] := watched.empty starts.idle
    refine watched.keep (starts.numbered watched.numbered) starts.config starts.dissolved ?_ ?_ ?_
    · intro other next sweeps
      rcases starts.sweeps_cases sweeps with before | ⟨rfl, rfl⟩
      · refine (watched.inTime other next before).keep starts.config starts.now
          (ages_of_eq starts.entries) fun can => ?_
        rw [starts.ready]
        exact List.mem_append_left _ (List.mem_append_left _ can)
      · exact .starts starts.ready_sweeper (starts.now ▸ aligned) (by simp [starts.entries, nobody])
    · exact fun _ => ⟨starts.signal, c.begun + 1, none, starts.sweeps watched.numbered⟩
    · intro stands
      simp [starts.phase] at stands

/-- An event that happens to nobody who sweeps. -/
theorem Watched.event (watched : c.Watched unit settings) (new : c.begun ≤ task)
    (aside : Aside task c d) (ages : Ages c d) : d.Watched unit settings :=
  watched.aside (fun _ sweeps => Nat.not_lt.mpr new (watched.numbered.lt_begun sweeps)) aside ages

/-- **Every event** leaves those who sweep in time. -/
theorem Watched.step (watched : c.Watched unit settings) (sound : c.Sound books [])
    (call : choice.isCall) (prompt : ∀ instant, choice = .elapse instant → c.Rests instant)
    (aligned : choice = .start → unit ∣ c.now) : (c.step choice).Watched unit settings := by
  have ages := sound.ages_step choice
  cases choice with
  | turn task => exact watched.turn sound task
  | start => exact watched.start (aligned rfl)
  | elapse instant => exact watched.elapse (prompt instant rfl)
  | spawn job =>
      refine watched.event (Nat.le_refl _) (c.aside_spawn ?_) ages
      cases job with
      | sweep next => simp [Choice.isCall, Job.isCall] at call
      | _ => rfl
  | register x id timeout =>
      cases enrols : c.enrol x id timeout with
      | error panic =>
          refine watched.event (Nat.le_refl _) ?_ ages
          simp only [Coordinator.step, enrols]
          exact (Tends.refl c).aside
      | ok outcome =>
          obtain ⟨enrolled, ticket⟩ := outcome
          refine watched.event (tends_enrol enrols).begun ?_ ages
          simp only [Coordinator.step, enrols]
          exact (tends_enrol enrols).aside.trans (enrolled.aside_spawn rfl)
  | rekey source target =>
      exact watched.event (Nat.le_refl _) (c.tends_rekey source target).aside ages
  | publish address => exact watched.event (Nat.le_refl _) (c.tends_publish address).aside ages

/-- **In a prompt run whoever sweeps does so in time.** -/
theorem Watched.before (watched : c.Watched unit settings) (sound : c.Sound [] [])
    (calls : ∀ choice ∈ choices, choice.isCall) (prompt : c.Prompt choices)
    (aligned : ∀ n, choices[n]? = some .start → unit ∣ (c.before choices n).now) (n : Nat) :
    (c.before choices n).Watched unit settings := by
  refine before_induction watched (fun n choice there watched => ?_) n
  exact watched.step (sound.before calls n) (calls choice (List.mem_of_getElem? there))
    (fun instant same => prompt n instant (same ▸ there)) fun same => aligned n (same ▸ there)

/-! ## When requests time out -/

/-- All sweeps come at whole milliseconds: the time between two of them is a number of milliseconds,
and the clock shows one at every start. -/
structure OnTheMilli (c : Coordinator) (choices : List Choice) : Prop where
  interval : nanosPerMilli ∣ c.config.sweepInterval.totalNanos
  starts : ∀ n, choices[n]? = some .start → nanosPerMilli ∣ (c.before choices n).now

/-- The latest instant at which a request with some deadline times out: an interval after the
deadline if all sweeps come at whole milliseconds, and else at the first whole millisecond after
that. -/
inductive Latest (c : Coordinator) (choices : List Choice) (deadline : Instant) : Instant → Prop
  | exact (whole : c.OnTheMilli choices) :
      Latest c choices deadline (deadline + c.config.sweepInterval.totalNanos)
  | tick : Latest c choices deadline
      (Instant.tick (deadline + c.config.sweepInterval.totalNanos))

theorem pace_le (c : Coordinator) : c.pace ≤ c.config.sweepInterval.totalNanos :=
  Duration.shorter_le_left _ _

theorem pace_ne_zero (paced : 0 < c.config.sweepInterval.totalNanos) : c.pace ≠ 0 :=
  Nat.ne_of_gt (Duration.shorter_pos paced (by decide))

theorem dvd_pace (whole : nanosPerMilli ∣ c.config.sweepInterval.totalNanos) :
    nanosPerMilli ∣ c.pace := by
  rw [pace, Duration.shorter]
  split
  · exact whole
  · decide

theorem tick_eq_self {due : Instant} (whole : nanosPerMilli ∣ due) : Instant.tick due = due := by
  obtain ⟨millis, rfl⟩ := whole
  have general : (1000000 * millis + (1000000 - 1)) / 1000000 * 1000000 = 1000000 * millis := by
    omega
  exact general

/-- Sweeps that come in time come at the latest instant at the latest. -/
theorem Latest.bounds {deadline latest : Instant} (limit : c.Latest choices deadline latest) :
    ∃ unit, unit ∣ c.pace ∧
      (∀ n, choices[n]? = some .start → unit ∣ (c.before choices n).now) ∧
      ∀ due, unit ∣ due → due ≤ deadline + c.pace → Instant.tick due ≤ latest := by
  have longer := Nat.add_le_add_left c.pace_le deadline
  cases limit with
  | exact whole =>
      refine ⟨nanosPerMilli, dvd_pace whole.interval, whole.starts, fun due aligned near => ?_⟩
      rw [tick_eq_self aligned]
      exact Nat.le_trans near longer
  | tick =>
      refine ⟨1, Nat.one_dvd _, fun _ _ => Nat.one_dvd _, fun due _ near => ?_⟩
      exact Instant.tick_mono (Nat.le_trans near longer)

/-- **Nobody waits longer than until the latest instant**, and if nobody can run not even until
then. -/
theorem Watched.now_le (watched : c.Watched unit settings) (sweeps : c.Sweeps task next)
    {entry : Pending} (inside : entry ∈ c.registry.entries) {latest : Instant}
    (bounds : ∀ due, unit ∣ due → due ≤ entry.deadline + c.pace → Instant.tick due ≤ latest) :
    c.now ≤ latest ∧ (c.ready = [] → c.now < latest) := by
  cases watched.inTime task next sweeps with
  | starts ready aligned young =>
      have first := bounds _ (Nat.dvd_add aligned watched.aligned)
        (Nat.add_le_add_right (young entry inside) _)
      have later := Nat.le_trans (Instant.le_tick _) first
      refine ⟨Nat.le_trans (Nat.le_add_right _ _) later, fun asleep => ?_⟩
      rw [asleep] at ready
      exact absurd ready List.not_mem_nil
  | waits aligned before fires _ reaches =>
      have last := bounds _ aligned (reaches entry inside)
      refine ⟨Nat.le_trans before last, fun asleep => ?_⟩
      refine Nat.lt_of_lt_of_le (Nat.lt_of_le_of_ne before fun now => ?_) last
      exact absurd (asleep ▸ fires now) List.not_mem_nil

/-- What holds of a part of a run holds of the run. -/
theorem EndsAt.of_take {ending : Ending}
    (ends : c.EndsAt (choices.take m) ticket request n ending) :
    n < m ∧ c.EndsAt choices ticket request n ending := by
  obtain ⟨choice, there, cause⟩ := ends.cause
  have less : n < m := by
    have bound := (List.getElem?_eq_some_iff.mp there).1
    rw [List.length_take] at bound
    exact Nat.lt_of_lt_of_le bound (Nat.min_le_left _ _)
  have same : ∀ k ≤ m, c.before (choices.take m) k = c.before choices k := fun k most => by
    rw [Coordinator.before, List.take_take, Nat.min_eq_left most, Coordinator.before]
  rw [List.getElem?_take_of_lt less] at there
  rw [same n (Nat.le_of_lt less)] at cause
  refine ⟨less, ?_, ⟨choice, there, cause⟩, ?_⟩
  · rw [← same n (Nat.le_of_lt less)]
    exact ends.open_before
  · rw [← same (n + 1) less]
    exact ends.verdict_after

/-- Which requests of a run time out, and when. -/
structure KeepsTime (c : Coordinator) (choices : List Choice) : Prop where
  /-- A request keeps the deadline of its registration, however often it is moved. -/
  deadline : ∀ ticket request m, c.RegistersAt choices ticket request m → ∀ n, m < n →
    ∀ entry ∈ (c.before choices n).registry.entries, entry.ticket = ticket →
      entry.deadline = (c.before choices m).now + request.2.totalNanos
  /-- It times out in the turn of a sweeper, not before its deadline and not after the latest
  instant. -/
  inTime : ∀ ticket request m, c.RegistersAt choices ticket request m →
    ∀ n id, c.EndsAt choices ticket request n (.timeout id) →
      c.SweepsAt choices n ∧
      (c.before choices m).now + request.2.totalNanos ≤ (c.before choices n).now ∧
      ∀ latest, c.Latest choices ((c.before choices m).now + request.2.totalNanos) latest →
        (c.before choices n).now ≤ latest
  /-- When the latest instant is over, and also when it has come and no task can run any more, a
  request that has not ended in another way has timed out once, unless the coordinator stops. -/
  timesOut : ∀ ticket request m, c.RegistersAt choices ticket request m → ∀ n, m < n →
    (c.before choices n).lifecycle.phase = .started →
    ∀ latest, c.Latest choices ((c.before choices m).now + request.2.totalNanos) latest →
      latest < (c.before choices n).now ∨
        latest ≤ (c.before choices n).now ∧ (c.before choices n).ready = [] →
      (∀ k < n, ∀ ending, c.EndsAt choices ticket request k ending →
        ∃ id, ending = .timeout id) →
      ∃! k, k < n ∧ ∃ id, c.EndsAt choices ticket request k (.timeout id)
  /-- A turn of a sweeper leaves every request alone whose deadline is still to come. -/
  spared : ∀ n task next, choices[n]? = some (.turn task) →
    (c.before choices n).Sweeps task next →
    ∀ entry ∈ (c.before choices n).registry.entries, (c.before choices n).now < entry.deadline →
      entry ∈ (c.before choices (n + 1)).registry.entries ∧
        (c.before choices (n + 1)).verdict? entry.ticket = none

/-- **Timeouts are neither early nor late.** Whatever callers begin, in whatever order tasks take
their turns, a request times out neither before its deadline nor more than a sweep interval after
it, and one that nothing else ends does time out. -/
theorem timeouts_keep_time (config : CoordinatorConfig) (transport : Transport)
    (naming : Nat → String) (choices : List Choice) (paced : 0 < config.sweepInterval.totalNanos)
    (calls : ∀ choice ∈ choices, choice.isCall)
    (prompt : (create config transport naming).Prompt choices) :
    (create config transport naming).KeepsTime choices := by
  have sound := sound_create config transport naming
  have paced : (create config transport naming).pace ≠ 0 := pace_ne_zero paced
  have created : ∀ {unit}, unit ∣ (create config transport naming).pace →
      (create config transport naming).Watched unit config := watched_create paced
  generalize create config transport naming = c at sound paced created prompt ⊢
  refine ⟨?_, ?_, ?_, ?_⟩
  · intro ticket request m registers n later entry inside own
    exact sound.deadline_of_ticket calls registers later inside own
  · intro ticket request m registers n id times
    obtain ⟨sweep, entry, inside, own, late⟩ := times.of_timeout
    refine ⟨sweep, registers.le_of_timeout sound calls times, fun latest limit => ?_⟩
    obtain ⟨unit, whole, starts, bounds⟩ := limit.bounds
    have watched := (created whole).before sound calls prompt starts n
    obtain ⟨task, due, _, sweeps⟩ := sweep
    have later := registers.lt_of_entry sound calls inside own
    have deadline := sound.deadline_of_ticket calls registers later inside own
    rw [← deadline, ← watched.pace_eq (created whole)] at bounds
    exact (watched.now_le sweeps inside bounds).1
  · intro ticket request m registers n later started latest limit overdue alone
    have here := sound.before calls n
    have known := registers.registered sound calls later
    cases verdict : (c.before choices n).verdict? ticket with
    | none =>
        obtain ⟨entry, inside, own⟩ :=
          here.exists_entry (List.getElem?_eq_some_iff.mp known).1 verdict
        obtain ⟨unit, whole, starts, bounds⟩ := limit.bounds
        have watched := (created whole).before sound calls prompt starts n
        obtain ⟨_, task, next, sweeps⟩ := watched.started started
        have deadline := sound.deadline_of_ticket calls registers later inside own
        rw [← deadline, ← watched.pace_eq (created whole)] at bounds
        obtain ⟨notAfter, asleep⟩ := watched.now_le sweeps inside bounds
        rcases overdue with past | ⟨come, ready⟩
        · exact absurd past (Nat.not_lt.mpr notAfter)
        · exact absurd come (Nat.not_le.mpr (asleep ready))
    | some shown =>
        have open_first : c.verdict? ticket = none := by
          rw [verdict?, List.getElem?_eq_none (by simp [sound.size])]
          rfl
        obtain ⟨found, k, ending, listed, ends, _⟩ :=
          sound.exists_endsAt (calls_take calls n) open_first verdict
        rw [List.nil_append, known, Option.some_inj] at listed
        obtain ⟨less, ends⟩ := ends.of_take
        rw [← listed] at ends
        obtain ⟨id, rfl⟩ := alone k less ending ends
        refine ⟨k, ⟨less, id, ends⟩, ?_⟩
        rintro other ⟨_, again, twin⟩
        exact (twin.unique sound calls ends).1
  · intro n task next there sweeps entry inside early
    have here := sound.before calls n
    have after := sound.before calls (n + 1)
    rw [before_succ there] at after ⊢
    have kept := here.spared_by_sweep sweeps inside early
    refine ⟨kept, ?_⟩
    have waits := (after.agrees (List.mem_append_right [] kept)).2
    change ((c.before choices n).turn task).handoffs[entry.ticket]? = _ at waits
    rw [verdict?, show (((c.before choices n).step (.turn task)).handoffs)[entry.ticket]? = _
      from waits]
    rfl

/-- A coordinator that sweeps every second. -/
def sweepsEachSecond : Coordinator := create default default fun _ => ""

/-- A request is registered between two sweeps, in a coordinator that was stopped and started
again. It moves twice, outlasts a sweep, and times out with the next one. -/
def movedTwice : List Choice :=
  [.start, .spawn .stop, .turn 2, .turn 0, .turn 1, .turn 2, .elapse 5000000, .start, .turn 3,
   .turn 4, .elapse 405000000, .register default "a" (Duration.ofMillis 700), .rekey "a" "b",
   .turn 5, .elapse 1005000000, .rekey "b" "c", .turn 4, .elapse 2005000000, .turn 4, .turn 5,
   .elapse 3005000000]

/-- The request times out once, not before its deadline and at most a second after it. -/
theorem timeouts_keep_time_movedTwice :
    (∀ choice ∈ movedTwice, choice.isCall) ∧ sweepsEachSecond.Prompt movedTwice ∧
      sweepsEachSecond.OnTheMilli movedTwice ∧
      sweepsEachSecond.RegistersAt movedTwice 0 (default, Duration.ofMillis 700) 11 ∧
      (∃! k, k < 21 ∧ ∃ id, sweepsEachSecond.EndsAt movedTwice 0
        (default, Duration.ofMillis 700) k (.timeout id)) ∧
      ∀ k id, sweepsEachSecond.EndsAt movedTwice 0 (default, Duration.ofMillis 700) k
        (.timeout id) → 1105000000 ≤ (sweepsEachSecond.before movedTwice k).now ∧
          (sweepsEachSecond.before movedTwice k).now ≤ 2105000000 := by
  have calls : ∀ choice ∈ movedTwice, choice.isCall := by decide
  have prompt : sweepsEachSecond.Prompt movedTwice := by
    intro n instant there
    have only : (n = 6 ∧ instant = 5000000) ∨ (n = 10 ∧ instant = 405000000) ∨
        (n = 14 ∧ instant = 1005000000) ∨ (n = 17 ∧ instant = 2005000000) ∨
        n = 20 ∧ instant = 3005000000 := by
      have bound := (List.getElem?_eq_some_iff.mp there).1
      change n < 21 at bound
      interval_cases n <;> simp [movedTwice, eq_comm] at there ⊢ <;> exact there
    obtain ⟨rfl, rfl⟩ | ⟨rfl, rfl⟩ | ⟨rfl, rfl⟩ | ⟨rfl, rfl⟩ | ⟨rfl, rfl⟩ := only <;>
      exact ⟨by decide +kernel, by decide +kernel⟩
  have whole : sweepsEachSecond.OnTheMilli movedTwice := by
    refine ⟨by decide, fun n there => ?_⟩
    have only : n = 0 ∨ n = 7 := by
      have bound := (List.getElem?_eq_some_iff.mp there).1
      change n < 21 at bound
      interval_cases n <;> simp [movedTwice] at there ⊢
    obtain rfl | rfl := only <;> decide +kernel
  have registers : sweepsEachSecond.RegistersAt movedTwice 0 (default, Duration.ofMillis 700) 11 :=
    ⟨by decide +kernel, _, rfl, rfl⟩
  have times : sweepsEachSecond.EndsAt movedTwice 0 (default, Duration.ofMillis 700) 18
      (.timeout "a") := by
    let entry : Pending :=
      ⟨"c", some "a", 405000000, 1105000000, Duration.ofMillis 700, default, 0⟩
    have inside : entry ∈ (sweepsEachSecond.before movedTwice 18).registry.entries := .head _
    exact ⟨rfl, ⟨.turn 4, rfl, .timedOut inside (by decide +kernel)⟩, rfl⟩
  have instant : (sweepsEachSecond.before movedTwice 11).now = 405000000 := by decide +kernel
  have latest : sweepsEachSecond.Latest movedTwice
      ((sweepsEachSecond.before movedTwice 11).now + (Duration.ofMillis 700).totalNanos)
      2105000000 := by
    rw [instant]
    exact .exact whole
  have keeps : sweepsEachSecond.KeepsTime movedTwice :=
    timeouts_keep_time default default (fun _ => "") movedTwice (by decide) calls prompt
  refine ⟨calls, prompt, whole, registers, ?_, fun k id ends => ?_⟩
  · refine keeps.timesOut 0 _ 11 registers 21 (by decide) (by decide +kernel) _ latest
      (.inl (by decide +kernel)) fun k _ ending ends => ?_
    exact ⟨"a", (times.unique (sound_create default default fun _ => "") calls ends).2.symm⟩
  · obtain ⟨_, notBefore, notAfter⟩ := keeps.inTime 0 _ 11 registers k id ends
    rw [instant] at notBefore
    exact ⟨notBefore, notAfter _ latest⟩

end Mediation.Coordinator
