import Mathlib.Data.Nat.Init
import Mediation.Proofs.Coordinator.Hearing

/-!
# Live runs

In a live run nobody stops the coordinator (`Choice.isLive`). Every event of it happens to a task,
or to none, and spares the replies of all others that wait (`Live.spares`), so a reply waits until a
turn of its own ends the wait. A task that has ended does not come back (`Live.ended`).

In a prompt run the clock goes on only when no task can run, and stops at every timer
(`Prompt`). Timers fire at whole milliseconds, so no wait is there after the first whole millisecond
at or after its deadline, and at that millisecond its task can run (`Live.punctual`).
-/

set_option autoImplicit false

namespace Mediation.Coordinator

variable {c d : Coordinator} {task other : TaskId} {message : Message} {id : String}
  {deadline : Instant} {job : Job} {registered : List (Exchange × Duration)} {choice : Choice}
  {choices : List Choice} {n m : Nat}

/-- The events of a run in which nobody stops the coordinator. -/
def Choice.isLive : Choice → Bool
  | .spawn job => job.isCall && !job.isStop
  | .turn _ | .register _ _ _ | .start | .rekey _ _ | .publish _ | .elapse _ => true

theorem Choice.isCall_of_isLive (live : choice.isLive) : choice.isCall := by
  cases choice with
  | spawn job =>
      have both : job.isCall = true ∧ job.isStop = false := by simpa [Choice.isLive] using live
      exact both.1
  | _ => rfl

/-! ## Events -/

theorem Job.isEarly_of_isCall (call : job.isCall) : job.isEarly = false := by
  cases job with
  | early message id carried => simp [Job.isCall] at call
  | _ => rfl

/-- Apart from the time that passes, nothing happens to those who wait. -/
theorem Calm.from_now (calm : Calm task c d) : Calm task { c with now := d.now } d := by
  rw [calm.now]
  exact calm

theorem calm_start (c : Coordinator) : Calm task c (c.step .start) := by
  simp only [step, start]
  cases c.lifecycle.start with
  | error refusal => exact .refl task c
  | ok lifecycle =>
      let listening := { c with lifecycle, transport := c.transport.listen }
      have begins : Calm task c listening :=
        calm_of_same rfl rfl rfl (List.Subset.refl _) (fun _ _ inside => inside) rfl rfl rfl
      let resolving := (listening.spawn (.resolve none)).1
      let sweeping := (resolving.spawn (.sweep none)).1
      have resolver : Calm task listening resolving := listening.calm_spawn rfl rfl
      have sweeper : Calm task resolving sweeping := resolving.calm_spawn rfl rfl
      have kept : ∀ background, Calm task sweeping { sweeping with background } := fun _ =>
        calm_of_same rfl rfl rfl (List.Subset.refl _) (fun _ _ inside => inside) rfl rfl rfl
      exact ((begins.trans resolver).trans sweeper).trans (kept _)

/-- **An event that is no turn** only lets time pass for those who wait. -/
theorem calm_step (c : Coordinator) (live : choice.isLive)
    (noTurn : ∀ task, choice ≠ .turn task) :
    Calm task { c with now := (c.step choice).now } (c.step choice) := by
  cases choice with
  | turn other => exact absurd rfl (noTurn other)
  | spawn job =>
      have both : job.isCall = true ∧ job.isStop = false := by simpa [Choice.isLive] using live
      exact (c.calm_spawn (Job.isEarly_of_isCall both.1) both.2).from_now
  | register x id timeout =>
      refine Calm.from_now ?_
      cases enrols : c.enrol x id timeout with
      | error panic =>
          simp only [step, enrols]
          exact .refl task c
      | ok outcome =>
          obtain ⟨enrolled, ticket⟩ := outcome
          simp only [step, enrols]
          exact (calm_enrol enrols).trans (enrolled.calm_spawn rfl rfl)
  | start => exact c.calm_start.from_now
  | rekey source target => exact (c.calm_rekey source target).from_now
  | publish address => exact (c.calm_publish address).from_now
  | elapse instant => exact calm_wake _ _

theorem now_step (attentive : c.Attentive) (sound : c.Sound registered []) (live : choice.isLive)
    (noTime : ∀ instant, choice ≠ .elapse instant) : (c.step choice).now = c.now := by
  cases choice with
  | turn task => exact (attentive.turn_cases sound task).1.now
  | elapse instant => exact absurd rfl (noTime instant)
  | spawn job => rfl
  | register x id timeout =>
      cases enrols : c.enrol x id timeout with
      | error panic => simp only [step, enrols]
      | ok outcome =>
          simp only [step, enrols]
          exact (show Calm c.begun c _ from calm_enrol enrols).now
  | start => exact (show Calm c.begun c _ from c.calm_start).now
  | rekey source target => exact (show Calm c.begun c _ from c.calm_rekey source target).now
  | publish address => rfl

/-- A coordinator in the middle of a run in which nobody stops it. -/
structure Live (c : Coordinator) (registered : List (Exchange × Duration)) : Prop where
  sound : c.Sound registered []
  attentive : c.Attentive

theorem Attentive.at (attentive : c.Attentive) (now : Instant) :
    Attentive { c with now } :=
  ⟨⟨attentive.orderly.distinct, attentive.orderly.begun, attentive.orderly.live⟩,
    attentive.tokens, attentive.listening, attentive.heeds⟩

/-- An event happens to a task, or to none, and spares all others. -/
theorem Live.spares (live : c.Live registered) (choice : Choice) (goesOn : choice.isLive) :
    ∃ doer, (choice = .turn doer ∨ doer = c.begun) ∧
      Spares doer { c with now := (c.step choice).now } (c.step choice) ∧
      (c.step choice).Attentive := by
  by_cases turns : ∃ task, choice = .turn task
  · obtain ⟨task, rfl⟩ := turns
    have spares := (live.attentive.turn_cases live.sound task).1
    refine ⟨task, .inl rfl, ?_, live.attentive.turn live.sound task⟩
    change Spares task { c with now := (c.turn task).now } (c.turn task)
    rw [spares.now]
    exact spares
  · have calm : Calm c.begun { c with now := (c.step choice).now } (c.step choice) :=
      c.calm_step goesOn fun task same => turns ⟨task, same⟩
    have before := live.attentive.at (c.step choice).now
    exact ⟨c.begun, .inr rfl, calm.toSpares, before.of_calm calm before.idle_begun⟩

theorem Live.step (live : c.Live registered) (goesOn : choice.isLive) :
    (c.step choice).Live (registered ++ (c.registers? (c.deed choice)).toList) := by
  obtain ⟨_, _, _, attentive⟩ := live.spares choice goesOn
  exact ⟨(live.sound.leads_step (Choice.isCall_of_isLive goesOn)).sound, attentive⟩

theorem Live.run (live : c.Live registered) (goesOn : ∀ choice ∈ choices, choice.isLive) :
    (c.run choices).Live (registered ++ c.registrations choices) := by
  induction choices generalizing c registered with
  | nil => simpa [registrations, Coordinator.run] using live
  | cons choice rest ih =>
      have later := ih (live.step (goesOn choice List.mem_cons_self))
        fun other member => goesOn other (List.mem_cons_of_mem _ member)
      rw [List.append_assoc] at later
      exact later

theorem live_create (config : CoordinatorConfig) (transport : Transport) (naming : Nat → String) :
    (create config transport naming).Live [] :=
  ⟨sound_create config transport naming, attentive_create config transport naming⟩

/-! ## Those who wait -/

theorem Listens.lt_begun (attentive : c.Attentive) (listens : c.Listens task message id deadline) :
    task < c.begun := by
  obtain ⟨carried, inside⟩ := listens.job
  exact attentive.orderly.begun _ inside

/-- **A reply that is spared waits on** for its id until its deadline. -/
theorem Spares.listens (spares : Spares other c d) (apart : task ≠ other)
    (listens : c.Listens task message id deadline) : d.Listens task message id deadline := by
  obtain ⟨⟨carried, inside⟩, window⟩ := listens
  refine ⟨⟨carried, (spares.early _ apart rfl).mpr inside⟩, ?_⟩
  have among : (task, id, deadline) ∈ c.registry.windowsBut other :=
    Registry.mem_windowsBut.mpr ⟨window, apart⟩
  rw [← spares.windows] at among
  exact (Registry.mem_windowsBut.mp among).1

/-- **Only its own turn ends the wait of a reply.** -/
theorem Live.listens_step (live : c.Live registered) (goesOn : choice.isLive)
    (apart : choice ≠ .turn task) (listens : c.Listens task message id deadline) :
    (c.step choice).Listens task message id deadline := by
  obtain ⟨doer, who, spares, _⟩ := live.spares choice goesOn
  refine spares.listens ?_ ⟨listens.job, listens.window⟩
  rcases who with rfl | rfl
  · exact fun same => apart (by rw [same])
  · exact Nat.ne_of_lt (listens.lt_begun live.attentive)

/-- A task that has ended does not come back. -/
theorem Live.ended_step (live : c.Live registered) (goesOn : choice.isLive)
    (old : task < c.begun) (ended : c.job? task = none) :
    task < (c.step choice).begun ∧ (c.step choice).job? task = none := by
  obtain ⟨doer, _, spares, _⟩ := live.spares choice goesOn
  exact ⟨Nat.lt_of_lt_of_le old spares.begun, spares.gone task old ended⟩

/-- **A reply whose id is registered can run.** -/
theorem Attentive.ready (attentive : c.Attentive) (listens : c.Listens task message id deadline)
    (there : c.registry.contains id = true) : task ∈ c.ready := by
  obtain ⟨wait, member, rfl, rfl, rfl⟩ := Registry.mem_windows.mp listens.window
  obtain ⟨told, woken⟩ := attentive.heeds wait member
  exact woken (told there)

/-! ## Prompt runs -/

/-- No task can run, and no timer fires before an instant. -/
structure Rests (c : Coordinator) (instant : Instant) : Prop where
  ready : c.ready = []
  timers : ∀ timer ∈ c.timers, instant ≤ timer.1

/-- The clock goes on only when no task can run, and stops at every timer. -/
def Prompt (c : Coordinator) (choices : List Choice) : Prop :=
  ∀ n instant, choices[n]? = some (.elapse instant) → (c.before choices n).Rests instant

instance (c : Coordinator) (instant : Instant) : Decidable (c.Rests instant) :=
  decidable_of_iff (c.ready = [] ∧ ∀ timer ∈ c.timers, instant ≤ timer.1)
    ⟨fun ⟨ready, timers⟩ => ⟨ready, timers⟩, fun rests => ⟨rests.ready, rests.timers⟩⟩

/-- The instant to which an event takes the clock. -/
def Choice.instant? : Choice → Option Instant
  | .elapse instant => some instant
  | _ => none

theorem Choice.instant?_eq_some {choice : Choice} {instant : Instant} :
    choice.instant? = some instant ↔ choice = .elapse instant := by
  cases choice <;> simp [Choice.instant?]

instance (c : Coordinator) (choices : List Choice) : Decidable (c.Prompt choices) :=
  decidable_of_iff (∀ n < choices.length, ∀ instant ∈ choices[n]?.bind Choice.instant?,
    (c.before choices n).Rests instant) <| by
    constructor
    · intro rests n instant there
      refine rests n (List.getElem?_eq_some_iff.mp there).1 instant ?_
      simp [there, Choice.instant?]
    · intro prompt n _ instant member
      obtain ⟨choice, there, moves⟩ := Option.bind_eq_some_iff.mp member
      exact prompt n instant (Choice.instant?_eq_some.mp moves ▸ there)

/-- No wait has missed its timer. -/
def Punctual (c : Coordinator) : Prop :=
  ∀ window ∈ c.registry.windows, c.now ≤ Instant.tick window.2.2 ∧
    (c.now = Instant.tick window.2.2 → window.1 ∈ c.ready)

theorem Listens.timer (attentive : c.Attentive) (listens : c.Listens task message id deadline) :
    (Instant.tick deadline, task) ∈ c.timers := by
  obtain ⟨⟨carried, inside⟩, window⟩ := listens
  obtain ⟨wait, member, rfl, rfl, rfl⟩ := Registry.mem_windows.mp window
  have found : c.registry.waits.find? (fun other => decide (other.token = wait.token)) =
      some wait := by
    have tokens := attentive.tokens
    rw [Registry.windows, List.map_map] at tokens
    cases looked : c.registry.waits.find? (fun other => decide (other.token = wait.token)) with
    | none => exact absurd (List.find?_eq_none.mp looked wait member) (by simp)
    | some other =>
        have same : other.token = wait.token := by simpa using List.find?_some looked
        rw [List.inj_on_of_nodup_map tokens (List.mem_of_find?_eq_some looked) member same]
  refine List.mem_filterMap.mpr ⟨_, inside, ?_⟩
  simp [Job.due?, found]

theorem Attentive.listens_of_window (attentive : c.Attentive)
    (window : (task, id, deadline) ∈ c.registry.windows) :
    ∃ message, c.Listens task message id deadline := by
  obtain ⟨message, carried, inside⟩ := (attentive.listening task id).mpr ⟨deadline, window⟩
  exact ⟨message, ⟨carried, inside⟩, window⟩

/-- Who has a timer that fires can run. -/
theorem ready_elapse {due instant : Instant} (timer : (due, task) ∈ c.timers)
    (fires : due ≤ max c.now instant) : task ∈ (c.elapse instant).ready := by
  refine mem_wake.mpr (.inr (List.mem_map.mpr ⟨(due, task), ?_, rfl⟩))
  rw [List.mem_mergeSort, List.mem_filter]
  exact ⟨timer, by simpa using fires⟩

/-- The clock stops at the timers of those who wait. -/
theorem Punctual.elapse (punctual : c.Punctual) (attentive : c.Attentive) {instant : Instant}
    (rests : c.Rests instant) : (c.elapse instant).Punctual := by
  rintro ⟨task, id, deadline⟩ window
  change (task, id, deadline) ∈ c.registry.windows at window
  obtain ⟨message, listens⟩ := attentive.listens_of_window window
  have timer := listens.timer attentive
  have first := rests.timers _ timer
  obtain ⟨before, _⟩ := punctual _ window
  change max c.now instant ≤ Instant.tick deadline ∧
    (max c.now instant = Instant.tick deadline → _)
  exact ⟨Nat.max_le.mpr ⟨before, first⟩, fun now => ready_elapse timer (Nat.le_of_eq now.symm)⟩

/-- A turn of another task misses no timer. -/
theorem Punctual.of_spares (punctual : c.Punctual) (spares : Spares task c d)
    (own : ∀ window ∈ d.registry.windows, window.1 = task → d.now < window.2.2) :
    d.Punctual := by
  intro window inside
  by_cases mine : window.1 = task
  · have early := own window inside mine
    have later := Nat.lt_of_lt_of_le early (Instant.le_tick window.2.2)
    exact ⟨Nat.le_of_lt later, fun now => absurd now (Nat.ne_of_lt later)⟩
  · have among := Registry.mem_windowsBut.mpr ⟨inside, mine⟩
    rw [spares.windows] at among
    obtain ⟨before, fires⟩ := punctual window (Registry.mem_windowsBut.mp among).1
    rw [spares.now]
    exact ⟨before, fun now => spares.ready window.1 mine (fires now)⟩

/-- A wait that goes on after a turn of its own has time left. -/
theorem Live.window_turn (live : c.Live registered) (task : TaskId) :
    ∀ window ∈ (c.turn task).registry.windows, window.1 = task →
      (c.turn task).now < window.2.2 := by
  obtain ⟨spares, turned⟩ := live.attentive.turn_cases live.sound task
  rw [spares.now]
  intro window inside own
  cases turned with
  | heard _ heard =>
      cases heard with
      | matched _ finished _ _ => exact absurd own (finished.window window inside)
      | orphaned _ _ finished _ _ => exact absurd own (finished.window window inside)
      | waits _ early _ _ windows _ _ _ =>
          rcases List.mem_cons.mp (windows.mem_iff.mp inside) with here | rest
          · rw [here]
            exact early
          · exact absurd own (Registry.mem_windowsBut.mp rest).2
  | dropped _ _ finished => exact absurd own (finished.window window inside)
  | calm idle calm _ => exact absurd own ((calm.idle idle).window window inside)

/-- **In a prompt run no wait misses its timer.** -/
theorem Live.punctual_step (live : c.Live registered) (goesOn : choice.isLive)
    (prompt : ∀ instant, choice = .elapse instant → c.Rests instant) (punctual : c.Punctual) :
    (c.step choice).Punctual := by
  by_cases turns : ∃ task, choice = .turn task
  · obtain ⟨task, rfl⟩ := turns
    exact punctual.of_spares (live.attentive.turn_cases live.sound task).1 (live.window_turn task)
  · by_cases passes : ∃ instant, choice = .elapse instant
    · obtain ⟨instant, rfl⟩ := passes
      exact punctual.elapse live.attentive (prompt instant rfl)
    · have calm : Calm c.begun { c with now := (c.step choice).now } (c.step choice) :=
        c.calm_step goesOn fun task same => turns ⟨task, same⟩
      rw [now_step live.attentive live.sound goesOn fun instant same => passes ⟨instant, same⟩]
        at calm
      refine punctual.of_spares calm.toSpares fun window inside own => absurd own ?_
      exact (calm.idle live.attentive.idle_begun).window window inside

/-! ## Runs -/

theorem before_succ_of_none (finished : choices[n]? = none) :
    c.before choices (n + 1) = c.before choices n :=
  foldl_take_succ_of_none finished

/-- What every event of a run keeps holds before each of them. -/
theorem before_induction {holds : Coordinator → Prop} (begins : holds c)
    (keeps : ∀ n choice, choices[n]? = some choice → holds (c.before choices n) →
      holds ((c.before choices n).step choice)) (n : Nat) : holds (c.before choices n) :=
  foldl_take_induction begins keeps n

theorem Live.before (live : c.Live registered) (goesOn : ∀ choice ∈ choices, choice.isLive)
    (n : Nat) : (c.before choices n).Live (registered ++ c.registrations (choices.take n)) :=
  live.run fun choice member => goesOn choice (List.mem_of_mem_take member)

theorem Live.listens_succ (live : c.Live registered) (goesOn : ∀ choice ∈ choices, choice.isLive)
    (apart : choices[n]? ≠ some (.turn task))
    (listens : (c.before choices n).Listens task message id deadline) :
    (c.before choices (n + 1)).Listens task message id deadline := by
  cases next : choices[n]? with
  | none =>
      rw [before_succ_of_none next]
      exact listens
  | some choice =>
      rw [before_succ next]
      exact (live.before goesOn n).listens_step (goesOn choice (List.mem_of_getElem? next))
        (fun same => apart (same ▸ next)) listens

theorem Live.punctual (live : c.Live registered) (goesOn : ∀ choice ∈ choices, choice.isLive)
    (prompt : c.Prompt choices) (punctual : c.Punctual) (n : Nat) :
    (c.before choices n).Punctual := by
  refine before_induction punctual (fun n choice there punctual => ?_) n
  exact (live.before goesOn n).punctual_step (goesOn choice (List.mem_of_getElem? there))
    (fun instant same => prompt n instant (same ▸ there)) punctual

/-- **A task that has ended does not come back.** -/
theorem Live.ended (live : c.Live registered) (goesOn : ∀ choice ∈ choices, choice.isLive)
    (old : task < (c.before choices n).begun) (finished : (c.before choices n).job? task = none)
    (later : n ≤ m) : (c.before choices m).job? task = none := by
  have both : task < (c.before choices m).begun ∧ (c.before choices m).job? task = none := by
    induction m, later using Nat.le_induction with
    | base => exact ⟨old, finished⟩
    | succ m _ ih =>
        cases there : choices[m]? with
        | none =>
            rw [before_succ_of_none there]
            exact ih
        | some choice =>
            rw [before_succ there]
            exact (live.before goesOn m).ended_step (goesOn choice (List.mem_of_getElem? there))
              ih.1 ih.2
  exact both.2

end Mediation.Coordinator
