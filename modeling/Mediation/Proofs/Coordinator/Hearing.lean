import Mediation.Proofs.Coordinator.Bystanders

/-!
# How a reply fares in a turn

A reply with a correlation id is matched if its id is registered when its task takes a turn;
otherwise it is an orphan if its deadline has come, and goes on waiting until the same deadline if
not (`Heard`). The deadline is fixed when the reply comes. A coordinator is attentive if exactly the
tasks of early replies have waits, and those whose id is registered can run (`Attentive`); every
event of a live coordinator keeps it so (`Attentive.step`).
-/

set_option autoImplicit false

namespace Mediation.Coordinator

open scoped List

variable {c d : Coordinator} {task other : TaskId} {message : Message} {id : String}
  {deadline : Instant} {job : Job} {registered : List (Exchange × Duration)}

/-- A reply waits for an id until a deadline. -/
structure Listens (c : Coordinator) (task : TaskId) (message : Message) (id : String)
    (deadline : Instant) : Prop where
  job : ∃ carried, (task, .early message id carried) ∈ c.tasks
  window : (task, id, deadline) ∈ c.registry.windows

/-- A task has ended and left no wait. -/
structure Over (c : Coordinator) (task : TaskId) : Prop where
  job : c.job? task = none
  window : ∀ window ∈ c.registry.windows, window.1 ≠ task

/-- What a turn of a reply does that comes with an id, or waits for it until a deadline. -/
inductive Heard (c : Coordinator) (task : TaskId) (message : Message) (id : String)
    (deadline : Instant) (d : Coordinator) : Prop
  /-- Its request is registered, and handed back. -/
  | matched (found : c.registry.contains id = true) (finished : d.Over task)
      (counts : d.counts = .repliesMatched :: c.counts)
      (entries : d.registry.entries = (c.registry.without id).entries)
  /-- Its deadline has come and its request is not registered. -/
  | orphaned (missing : c.registry.contains id = false) (late : deadline ≤ c.now)
      (finished : d.Over task) (counts : d.counts = .repliesOrphaned :: c.counts)
      (entries : d.registry.entries = c.registry.entries)
  /-- Its request is not registered and its deadline has not come. -/
  | waits (missing : c.registry.contains id = false) (early : c.now < deadline)
      (listens : d.Listens task message id deadline)
      (jobs : ∀ entry ∈ d.tasks, entry.1 = task → ∃ carried, entry.2 = .early message id carried)
      (windows : d.registry.windows ~ (task, id, deadline) :: c.registry.windowsBut task)
      (quiet : ∀ wait ∈ d.registry.waits, wait.token = task → wait.notified = false)
      (counts : d.counts = c.counts) (entries : d.registry.entries = c.registry.entries)

theorem Over.idle (finished : d.Over task) : d.Idle task where
  job entry member own := absurd own (job?_eq_none_iff.mp finished.job entry member)
  window := finished.window

theorem over_finish {report : Report} (windows : ∀ window ∈ c.registry.windows, window.1 ≠ task) :
    (c.finish task report).Over task :=
  ⟨c.job?_finish task report, windows⟩

/-- How a reply fares depends on the registry and the clock only. -/
theorem Heard.of_same {e : Coordinator} (heard : e.Heard task message id deadline d)
    (registry : e.registry = c.registry) (now : e.now = c.now) (counts : e.counts = c.counts) :
    c.Heard task message id deadline d := by
  cases heard with
  | matched found finished counted entries =>
      rw [registry] at found entries
      exact .matched found finished (counts ▸ counted) entries
  | orphaned missing late finished counted entries =>
      rw [registry] at missing entries
      exact .orphaned missing (now ▸ late) finished (counts ▸ counted) entries
  | waits missing early listens jobs windows quiet counted entries =>
      rw [registry] at missing windows entries
      exact .waits missing (now ▸ early) listens jobs windows quiet (counted.trans counts) entries

/-! ## Turns of replies -/

/-- A wait of a task has run. -/
theorem spares_ran {registry : Registry} (ran : c.registry.Ran registry task) :
    Spares task c { c with registry } where
  orderly orderly := ⟨orderly.distinct, orderly.begun, orderly.live⟩
  stands _ inside _ := inside
  early _ _ _ := .rfl
  windows := ran.windowsBut
  heeds heeds := ran.heeds heeds fun _ _ inside => inside
  ready _ _ := id
  begun := Nat.le_refl _
  gone _ _ := id
  config := rfl
  now := rfl

theorem spares_counted (c : Coordinator) (tally : Tally) : Spares task c { c with tally } where
  orderly orderly := ⟨orderly.distinct, orderly.begun, orderly.live⟩
  stands _ inside _ := inside
  early _ _ _ := .rfl
  windows := rfl
  heeds := id
  ready _ _ := id
  begun := Nat.le_refl _
  gone _ _ := id
  config := rfl
  now := rfl

/-- A reply that finds its request takes it out and hands it back. -/
theorem matchReply_eq {entry : Pending} (found : c.registry.find? id = some entry) (carried : Bool)
    (unmatched : Coordinator → Coordinator) :
    c.matchReply task id message carried unmatched =
      (({ c with
          registry := (c.registry.without id).report
          tally := (c.tally.count .repliesMatched).observe .replyLatency
            (c.latency (entry.release (some message) false)) } : Coordinator).complete entry.ticket
        (c.answered (entry.release (some message) false) message) false).concludeReply task
          carried := by
  have taken : c.registry.resolve id message =
      ((c.registry.without id).report, some (entry.release (some message) false)) := by
    simp [Registry.resolve, found]
  simp only [matchReply, taken]
  rfl

/-- **A reply that finds its request** is counted once and ends. -/
theorem spares_matchReply {entry : Pending} (found : c.registry.find? id = some entry)
    (windows : ∀ window ∈ c.registry.windows, window.1 ≠ task) (carried : Bool)
    (unmatched : Coordinator → Coordinator) :
    Spares task c (c.matchReply task id message carried unmatched) ∧
      (c.matchReply task id message carried unmatched).Over task ∧
      (c.matchReply task id message carried unmatched).counts = .repliesMatched :: c.counts ∧
      (c.matchReply task id message carried unmatched).registry.entries =
        (c.registry.without id).entries := by
  let out := { c with registry := (c.registry.without id).report }
  let counted := { out with
    tally := (out.tally.count .repliesMatched).observe .replyLatency
      (out.latency (entry.release (some message) false)) }
  have outside : Calm task c out :=
    c.calm_taken rfl (c.registry.without_subset id)
  have completes : Calm task counted (counted.complete entry.ticket
      (out.answered (entry.release (some message) false) message) false) :=
    counted.calm_settleTicket _ _
  have ends := completes.trans (calm_finish _ task (if carried then .delivered true else .handled))
  rw [matchReply_eq found]
  refine ⟨(outside.toSpares.trans (out.spares_counted _)).trans ends.toSpares,
    over_finish windows, ?_, rfl⟩
  exact ends.counts

/-- A reply without a request is counted once and ends. -/
theorem spares_orphan (c : Coordinator) (task : TaskId) (carried : Bool) :
    Spares task c (c.orphan task carried) ∧
      (c.orphan task carried).counts = .repliesOrphaned :: c.counts :=
  ⟨(c.spares_counted _).trans (calm_finish _ task _).toSpares, rfl⟩

theorem mem_park_tasks {entry : TaskId × Job} (member : entry ∈ (c.park task job).tasks)
    (own : entry.1 = task) : entry.2 = job := by
  obtain ⟨old, inside, rfl⟩ := List.mem_map.mp member
  split
  · rfl
  · next apart =>
      rw [if_neg apart] at own
      exact absurd own apart

/-- **What follows when a wait has run.** -/
theorem heard_afterWait (message : Message) {outcome : Registry × Registry.WaitState}
    (runs : c.registry.RunsTo c.now task id deadline outcome)
    (own : ∃ job, (task, job) ∈ c.tasks) (carried : Bool) :
    Spares task c (c.afterWait task message id carried outcome) ∧
      c.Heard task message id deadline (c.afterWait task message id carried outcome) := by
  cases runs with
  | ended ends ran left =>
      rename_i registry
      have ranSpares : Spares task c { c with registry } := spares_ran ran
      have windows : ∀ window ∈ registry.windows, window.1 ≠ task := by
        rw [left]
        exact fun window member => (Registry.mem_windowsBut.mp member).2
      cases there : c.registry.contains id with
      | true =>
          obtain ⟨entry, found⟩ := Option.isSome_iff_exists.mp there
          have still : registry.find? id = some entry := by
            rw [Registry.find?, ran.entries]
            exact found
          obtain ⟨spares, finished, counts, rest⟩ := spares_matchReply (c := { c with registry })
            still windows carried fun c => c.orphan task carried
          refine ⟨ranSpares.trans spares, .matched there finished counts (rest.trans ?_)⟩
          change registry.entries.filter _ = c.registry.entries.filter _
          rw [ran.entries]
      | false =>
          have late : deadline ≤ c.now := by simpa [there] using ends
          obtain ⟨spares, counts⟩ := spares_orphan { c with registry } task carried
          exact ⟨ranSpares.trans spares, .orphaned there late (over_finish windows) counts
            ran.entries⟩
  | parked missing early ran left quiet =>
      rename_i registry
      have ranSpares : Spares task c { c with registry } := spares_ran ran
      refine ⟨ranSpares.trans (spares_park _ task rfl), .waits missing early ⟨?_, ?_⟩ ?_ left quiet
        rfl ran.entries⟩
      · obtain ⟨job, inside⟩ := own
        exact ⟨carried, List.mem_map.mpr ⟨(task, job), inside, if_pos rfl⟩⟩
      · exact left.mem_iff.mpr List.mem_cons_self
      · exact fun entry member same => ⟨carried, mem_park_tasks member same⟩

/-- A wait that the clock has no instant for ends its task with a panic. -/
theorem calm_beyondClock {registry : Registry} (entries : registry.entries = c.registry.entries)
    (waits : registry.waits = c.registry.waits) (carried : Bool) :
    Calm task c (c.afterWait task message id carried (registry, .beyondClock)) := by
  have taken : Calm task c { c with registry } :=
    c.calm_taken waits (by rw [entries]; exact List.Subset.refl _)
  exact taken.trans (calm_finish _ task _)

/-- A reply that comes before its request begins to wait for it. -/
theorem receive_early (known : message.correlationId? = some id)
    (missing : c.registry.contains id = false) (task : TaskId) (carried : Bool) :
    c.receive task message carried =
      { c with tally := c.tally.count .repliesEarly }.afterWait task message id carried
        (c.registry.beginWait c.now task id c.config.earlyReplyWait) := by
  have unmatched : c.registry.resolve id message = (c.registry, none) := by
    simp [Registry.resolve, Registry.contains_eq_false_iff.mp missing]
  simp only [receive, known, matchReply, unmatched]

/-- **A reply comes** that has an id: it is matched, an orphan, or waits; or there is no instant
until which it could wait. -/
theorem heard_receive (idle : c.Idle task) (own : ∃ job, (task, job) ∈ c.tasks)
    (known : message.correlationId? = some id) (carried : Bool) :
    Spares task c (c.receive task message carried) ∧
      ((∀ deadline, (c.registry.contains id = true ∨
          Registry.windowEnd? c.now c.config.earlyReplyWait = some deadline) →
        c.Heard task message id deadline (c.receive task message carried)) ∧
      (c.registry.contains id = false →
        Registry.windowEnd? c.now c.config.earlyReplyWait = none →
          Calm task c (c.receive task message carried) ∧
            (c.receive task message carried).registry.entries = c.registry.entries)) := by
  cases found : c.registry.find? id with
  | some entry =>
      have there : c.registry.contains id = true := by simp [Registry.contains, found]
      simp only [receive, known]
      obtain ⟨spares, finished, counts, rest⟩ := spares_matchReply (c := c) found idle.window carried
        fun c =>
          let early := { c with tally := c.tally.count .repliesEarly }
          early.afterWait task message id carried
            (early.registry.beginWait early.now task id early.config.earlyReplyWait)
      exact ⟨spares, fun deadline _ => .matched there finished counts rest,
        fun missing => absurd (there.symm.trans missing) (by simp)⟩
  | none =>
      have missing : c.registry.contains id = false := Registry.contains_eq_false_iff.mpr found
      let early := { c with tally := c.tally.count .repliesEarly }
      have counted : Calm task c early :=
        calm_of_same rfl rfl rfl (List.Subset.refl _) (fun _ _ inside => inside) rfl rfl rfl
      rw [receive_early known missing task carried]
      rcases c.registry.beginWait_cases c.now task c.config.earlyReplyWait missing with
        ⟨deadline, ends, runs⟩ | ⟨beyond, registry, outcome, entries, waits⟩
      · obtain ⟨spares, heard⟩ := heard_afterWait (c := early) message runs own carried
        refine ⟨counted.toSpares.trans spares, fun again fits => ?_, fun _ never => ?_⟩
        · have same : deadline = again := by
            rcases fits with there | fits
            · rw [missing] at there
              simp at there
            · rw [ends, Option.some_inj] at fits
              exact fits
          subst same
          exact heard.of_same rfl rfl rfl
        · rw [ends] at never
          simp at never
      · rw [outcome]
        have ended : Calm task early (early.afterWait task message id carried
            (registry, .beyondClock)) := calm_beyondClock (c := early) entries waits carried
        refine ⟨(counted.trans ended).toSpares, fun deadline fits => ?_,
          fun _ _ => ⟨counted.trans ended, entries⟩⟩
        rcases fits with there | fits
        · rw [missing] at there
          simp at there
        · rw [beyond] at fits
          simp at fits

/-! ## Attentive coordinators -/

/-- Exactly the tasks of early replies wait for registrations, each for its id. A wait whose id is
registered was told so, and then its task can run. -/
structure Attentive (c : Coordinator) : Prop where
  orderly : c.Orderly
  tokens : (c.registry.windows.map (·.1)).Nodup
  listening : ∀ task id, (∃ message carried, (task, .early message id carried) ∈ c.tasks) ↔
    ∃ deadline, (task, id, deadline) ∈ c.registry.windows
  heeds : ∀ wait ∈ c.registry.waits,
    (c.registry.contains wait.id = true → wait.notified = true) ∧
      (wait.notified = true → wait.token ∈ c.ready)

theorem attentive_create (config : CoordinatorConfig) (transport : Transport)
    (naming : Nat → String) : (create config transport naming).Attentive where
  orderly := ⟨List.nodup_nil, by simp [create], by simp [create]⟩
  tokens := List.nodup_nil
  listening task id := by simp [create, Registry.windows, Registry.empty]
  heeds := by simp [create, Registry.empty]

theorem isEarly_iff : job.isEarly = true ↔ ∃ message id carried, job = .early message id carried := by
  cases job <;> simp [Job.isEarly]

theorem Orderly.job?_eq_some_iff (orderly : c.Orderly) :
    c.job? task = some job ↔ (task, job) ∈ c.tasks := by
  constructor
  · intro standing
    obtain ⟨entry, found, rfl⟩ := Option.map_eq_some_iff.mp standing
    have number : entry.1 = task := by simpa using List.find?_some found
    rw [← number]
    exact List.mem_of_find?_eq_some found
  · intro member
    cases found : c.tasks.find? (fun entry => decide (entry.1 = task)) with
    | none => exact absurd (List.find?_eq_none.mp found _ member) (by simp)
    | some entry =>
        have number : entry.1 = task := by simpa using List.find?_some found
        have same := List.inj_on_of_nodup_map orderly.distinct
          (List.mem_of_find?_eq_some found) member number
        simp [job?, found, same]

/-- A task that stands at another job waits for no registration. -/
theorem Attentive.idle_of_job (attentive : c.Attentive) (standing : (task, job) ∈ c.tasks)
    (apart : job.isEarly = false) : c.Idle task where
  job entry member own := by
    have same := List.inj_on_of_nodup_map attentive.orderly.distinct member standing own
    rw [same]
    exact apart
  window := by
    rintro ⟨token, id, deadline⟩ inside rfl
    obtain ⟨message, carried, waits⟩ := (attentive.listening token id).mpr ⟨deadline, inside⟩
    have same := List.inj_on_of_nodup_map attentive.orderly.distinct waits standing rfl
    rw [Prod.mk.injEq] at same
    rw [← same.2] at apart
    simp [Job.isEarly] at apart

/-- A task that has not begun waits for no registration. -/
theorem Attentive.idle_begun (attentive : c.Attentive) : c.Idle c.begun where
  job entry member own := absurd own (Nat.ne_of_lt (attentive.orderly.begun entry member))
  window := by
    rintro ⟨token, id, deadline⟩ inside rfl
    obtain ⟨message, carried, waits⟩ := (attentive.listening _ id).mpr ⟨deadline, inside⟩
    exact absurd (attentive.orderly.begun _ waits) (Nat.lt_irrefl _)

theorem Attentive.heedsBut (attentive : c.Attentive) (task : TaskId) :
    c.registry.Heeds c.ready task :=
  fun wait member _ => attentive.heeds wait member

/-- A task that does not wait, and spares the others, leaves the coordinator attentive. -/
theorem Attentive.of_spares (attentive : c.Attentive) (spares : Spares task c d)
    (idle : d.Idle task) : d.Attentive := by
  have all : d.registry.windows = c.registry.windowsBut task := by
    rw [← spares.windows]
    exact (List.filter_eq_self.mpr (by simpa using idle.window)).symm
  refine ⟨spares.orderly attentive.orderly, ?_, fun other id => ?_, fun wait member => ?_⟩
  · rw [all]
    exact attentive.tokens.sublist (List.filter_sublist.map _)
  · by_cases own : other = task
    · subst own
      constructor
      · rintro ⟨message, carried, inside⟩
        exact absurd (idle.job _ inside rfl) (by simp [Job.isEarly])
      · rintro ⟨deadline, inside⟩
        exact absurd rfl (idle.window _ inside)
    · have jobs : (∃ message carried, (other, Job.early message id carried) ∈ d.tasks) ↔
          ∃ message carried, (other, Job.early message id carried) ∈ c.tasks := by
        refine exists_congr fun message => exists_congr fun carried => ?_
        exact spares.early _ own rfl
      rw [jobs, attentive.listening, all]
      refine exists_congr fun deadline => ?_
      rw [Registry.mem_windowsBut]
      exact ⟨fun inside => ⟨inside, own⟩, And.left⟩
  · refine spares.heeds (attentive.heedsBut task) wait member ?_
    exact idle.window _ (Registry.mem_windows.mpr ⟨wait, member, rfl, rfl, rfl⟩)

theorem Attentive.of_calm (attentive : c.Attentive) (calm : Calm task c d) (idle : c.Idle task) :
    d.Attentive :=
  attentive.of_spares calm.toSpares (calm.idle idle)

/-- **A turn of a reply** leaves the coordinator attentive. -/
theorem Attentive.of_heard (attentive : c.Attentive) (spares : Spares task c d)
    (heard : c.Heard task message id deadline d) : d.Attentive := by
  cases heard with
  | matched _ finished _ _ => exact attentive.of_spares spares finished.idle
  | orphaned _ _ finished _ _ => exact attentive.of_spares spares finished.idle
  | waits missing early listens jobs windows quiet counts entries =>
      have own : (task, id, deadline) ∈ d.registry.windows := listens.window
      refine ⟨spares.orderly attentive.orderly, ?_, fun other name => ?_, fun wait member => ?_⟩
      · rw [(windows.map _).nodup_iff, List.map_cons, List.nodup_cons]
        refine ⟨fun inside => ?_, attentive.tokens.sublist (List.filter_sublist.map _)⟩
        obtain ⟨window, among, same⟩ := List.mem_map.mp inside
        exact (Registry.mem_windowsBut.mp among).2 same
      · by_cases same : other = task
        · subst same
          constructor
          · rintro ⟨again, carried, inside⟩
            obtain ⟨_, shape⟩ := jobs _ inside rfl
            rw [Job.early.injEq] at shape
            exact ⟨deadline, shape.2.1 ▸ own⟩
          · rintro ⟨again, inside⟩
            rcases List.mem_cons.mp (windows.mem_iff.mp inside) with here | old
            · rw [Prod.mk.injEq, Prod.mk.injEq] at here
              obtain ⟨carried, standing⟩ := listens.job
              exact ⟨message, carried, here.2.1 ▸ standing⟩
            · exact absurd rfl (Registry.mem_windowsBut.mp old).2
        · have waiting : (∃ message carried, (other, Job.early message name carried) ∈ d.tasks) ↔
              ∃ message carried, (other, Job.early message name carried) ∈ c.tasks := by
            refine exists_congr fun message => exists_congr fun carried => ?_
            exact spares.early _ same rfl
          rw [waiting, attentive.listening]
          refine exists_congr fun until_ => ?_
          rw [windows.mem_iff, List.mem_cons, Registry.mem_windowsBut]
          constructor
          · exact fun inside => .inr ⟨inside, same⟩
          · rintro (here | old)
            · rw [Prod.mk.injEq] at here
              exact absurd here.1 same
            · exact old.1
      · by_cases same : wait.token = task
        · have here := List.mem_cons.mp (windows.mem_iff.mp
            (Registry.mem_windows.mpr ⟨wait, member, rfl, rfl, rfl⟩))
          have under : wait.id = id := by
            rcases here with here | old
            · rw [Prod.mk.injEq, Prod.mk.injEq] at here
              exact here.2.1
            · exact absurd same (Registry.mem_windowsBut.mp old).2
          have still : d.registry.contains id = false := by
            rw [Registry.contains, Registry.find?, entries]
            exact missing
          refine ⟨fun there => ?_, fun notified => ?_⟩
          · rw [under, still] at there
            simp at there
          · rw [quiet wait member same] at notified
            simp at notified
        · exact spares.heeds (attentive.heedsBut task) wait member same

/-! ## Turns -/

/-- A reply comes with the next turn of a task: it was handed in, or the transport has it for
someone who listens. -/
def Arrives (c : Coordinator) (task : TaskId) (message : Message) : Prop :=
  (task, .reply message) ∈ c.tasks ∨
    c.transport.listening = true ∧ c.dissolved = false ∧
      ((task, .deliver message) ∈ c.tasks ∨
        ∃ due, due ≤ c.now ∧ (task, .carried message due) ∈ c.tasks)

/-- A reply without an id is dropped: it is counted, its task ends, and all else stays. -/
structure Drops (c : Coordinator) (task : TaskId) (d : Coordinator) : Prop where
  tally : d.tally = c.tally.count .repliesMalformed
  tasks : d.tasks = c.tasks.filter fun entry => entry.1 ≠ task
  registry : d.registry = c.registry
  handoffs : d.handoffs = c.handoffs
  transport : d.transport = c.transport
  lifecycle : d.lifecycle = c.lifecycle
  replyAddress : d.replyAddress = c.replyAddress

theorem calm_called (c : Coordinator) (task : TaskId) : Calm task c (c.called task) :=
  calm_of_same rfl rfl rfl (List.Subset.refl _)
    (fun _ apart inside => List.mem_filter.mpr ⟨inside, by simpa using apart⟩) rfl rfl rfl

/-- A reply that has come is received. -/
theorem runJob_arrives (sound : c.Sound registered []) (orderly : c.Orderly)
    (arrives : c.Arrives task message) :
    ∃ job carried, (task, job) ∈ c.tasks ∧ job.isEarly = false ∧ c.jobDeed job = .answer message ∧
      c.turn task = (c.called task).receive task message carried := by
  have turns : ∀ job, (task, job) ∈ c.tasks →
      c.turn task = (c.called task).runJob task job := by
    intro job inside
    have standing := orderly.job?_eq_some_iff.mpr inside
    exact turn_eq standing (sound.leads_called standing).sound.held
  rcases arrives with inside | ⟨listening, there, inside | ⟨due, late, inside⟩⟩
  · exact ⟨_, false, inside, rfl, rfl, turns _ inside⟩
  · refine ⟨_, true, inside, rfl, rfl, ?_⟩
    rw [turns _ inside]
    change (c.called task).handOver task message = _
    have same : (c.called task).transport.listening = true ∧ (c.called task).dissolved = false :=
      ⟨listening, there⟩
    simp [handOver, same.1, same.2]
  · refine ⟨_, true, inside, rfl, rfl, ?_⟩
    rw [turns _ inside]
    have same : (c.called task).transport.listening = true ∧ (c.called task).dissolved = false ∧
        due ≤ (c.called task).now := ⟨listening, there, late⟩
    simp [runJob, handOver, same.1, same.2.1, same.2.2]

theorem turn_malformed (sound : c.Sound registered []) (attentive : c.Attentive)
    (arrives : c.Arrives task message) (unknown : message.correlationId? = none) :
    c.Drops task (c.turn task) := by
  obtain ⟨job, carried, inside, _, _, shape⟩ :=
    runJob_arrives sound attentive.orderly arrives
  rw [shape]
  simp only [receive, unknown]
  exact ⟨rfl, finish_tasks _ _ _, rfl, rfl, rfl, rfl, rfl⟩

/-- **A reply that comes with an id** fares as `Heard` says, if it has a window or a request. -/
theorem turn_arrives (sound : c.Sound registered []) (attentive : c.Attentive)
    (arrives : c.Arrives task message) (known : message.correlationId? = some id)
    (fits : c.registry.contains id = true ∨
      Registry.windowEnd? c.now c.config.earlyReplyWait = some deadline) :
    Spares task c (c.turn task) ∧ c.Heard task message id deadline (c.turn task) := by
  obtain ⟨job, carried, inside, apart, _, shape⟩ :=
    runJob_arrives sound attentive.orderly arrives
  have calm := c.calm_called task
  obtain ⟨spares, hears, _⟩ := heard_receive (calm.idle (attentive.idle_of_job inside apart))
    ⟨job, inside⟩ known carried
  rw [shape]
  exact ⟨calm.toSpares.trans spares, (hears deadline fits).of_same rfl rfl rfl⟩

/-- **A reply that waits** fares as `Heard` says, with the deadline it has. -/
theorem turn_listens (sound : c.Sound registered []) (attentive : c.Attentive)
    (listens : c.Listens task message id deadline) :
    Spares task c (c.turn task) ∧ c.Heard task message id deadline (c.turn task) := by
  obtain ⟨⟨carried, inside⟩, window⟩ := listens
  have standing := attentive.orderly.job?_eq_some_iff.mpr inside
  have shape := turn_eq standing (sound.leads_called standing).sound.held
  have calm := c.calm_called task
  have runs := Registry.continueWait_cases attentive.tokens
    (fun wait member => (attentive.heeds wait member).1) window c.now
  obtain ⟨spares, heard⟩ := heard_afterWait (c := c.called task) message runs
    ⟨_, inside⟩ carried
  rw [shape]
  exact ⟨calm.toSpares.trans spares, heard.of_same rfl rfl rfl⟩

/-- A reply that nobody hears is gone. -/
theorem calm_handOver (c : Coordinator) (task : TaskId) (message : Message)
    (unheard : ¬ (c.transport.listening = true ∧ c.dissolved = false)) :
    Calm task c (c.handOver task message) ∧
      (c.handOver task message).registry = c.registry := by
  unfold handOver
  split
  · exact ⟨c.calm_finish task _, rfl⟩
  · split
    · exact ⟨c.calm_finish task _, rfl⟩
    · next listening there =>
        exact absurd ⟨by simpa using listening, by simpa using there⟩ unheard

theorem isReply_of_answer (deed : c.jobDeed job = .answer message) : Job.isReply job = true := by
  cases job with
  | request x timeout waiting =>
      simp only [jobDeed] at deed
      split at deed
      · simp at deed
      · split at deed
        · simp at deed
        · simp at deed
  | sent x id timeout answer => cases answer <;> simp [jobDeed] at deed
  | sweep next => cases next <;> simp [jobDeed] at deed
  | stop =>
      simp only [jobDeed] at deed
      split at deed <;> simp at deed
  | reply => rfl
  | deliver => rfl
  | carried => rfl
  | early => rfl
  | _ => simp [jobDeed] at deed

/-- A task that neither stands at a reply that comes nor waits for a request ends no reply, and
if it is a reply nobody hears it. -/
theorem calm_turn (sound : c.Sound registered []) (attentive : c.Attentive)
    (absent : ∀ message, ¬ c.Arrives task message)
    (deaf : ∀ message id carried, (task, .early message id carried) ∉ c.tasks) :
    Calm task c (c.turn task) ∧ (∀ message, c.deed (.turn task) = .answer message →
      (c.turn task).registry.entries = c.registry.entries) := by
  have calm := c.calm_called task
  cases standing : c.job? task with
  | none =>
      rw [turn_of_ended standing]
      exact ⟨calm, fun _ _ => rfl⟩
  | some job =>
      have inside := attentive.orderly.job?_eq_some_iff.mp standing
      rw [turn_eq standing (sound.leads_called standing).sound.held, deed_turn standing]
      cases reply : Job.isReply job with
      | false =>
          refine ⟨calm.trans (calm_runJob _ task reply (attentive.orderly.live _ inside)), ?_⟩
          intro message deed
          rw [isReply_of_answer deed] at reply
          simp at reply
      | true =>
          cases job with
          | reply message => exact absurd (.inl inside) (absent message)
          | early message id carried => exact absurd inside (deaf message id carried)
          | deliver message =>
              obtain ⟨hands, same⟩ := (c.called task).calm_handOver task message fun heard =>
                absurd (.inr ⟨heard.1, heard.2, .inl inside⟩) (absent message)
              exact ⟨calm.trans hands, fun _ _ => congrArg Registry.entries same⟩
          | carried message due =>
              simp only [runJob]
              split
              · next late =>
                  obtain ⟨hands, same⟩ := (c.called task).calm_handOver task message fun heard =>
                    absurd (.inr ⟨heard.1, heard.2, .inr ⟨due, late, inside⟩⟩) (absent message)
                  exact ⟨calm.trans hands, fun _ _ => congrArg Registry.entries same⟩
              · exact ⟨calm, fun _ _ => rfl⟩
          | _ => simp [Job.isReply] at reply

/-- A reply with an id comes with the next turn of a task and has a window, or it waits already. -/
def Speaks (c : Coordinator) (task : TaskId) (message : Message) (id : String)
    (deadline : Instant) : Prop :=
  c.Arrives task message ∧ message.correlationId? = some id ∧
      (c.registry.contains id = true ∨
        Registry.windowEnd? c.now c.config.earlyReplyWait = some deadline) ∨
    c.Listens task message id deadline

/-- **A reply that comes or waits** fares as `Heard` says. -/
theorem turn_speaks (sound : c.Sound registered []) (attentive : c.Attentive)
    (speaks : c.Speaks task message id deadline) :
    Spares task c (c.turn task) ∧ c.Heard task message id deadline (c.turn task) := by
  rcases speaks with ⟨arrives, known, fits⟩ | listens
  · exact turn_arrives sound attentive arrives known fits
  · exact turn_listens sound attentive listens

/-- What a turn is to the replies. -/
inductive TurnCase (c : Coordinator) (task : TaskId) : Prop
  /-- It is that of a reply with an id. -/
  | heard {message : Message} {id : String} {deadline : Instant}
      (speaks : c.Speaks task message id deadline)
      (heard : c.Heard task message id deadline (c.turn task))
  /-- It is that of a reply without an id. -/
  | dropped {message : Message} (arrives : c.Arrives task message)
      (drops : c.Drops task (c.turn task)) (finished : (c.turn task).Over task)
  /-- It is not that of a reply, or the reply is not heard or has no window. -/
  | calm (idle : c.Idle task) (calm : Calm task c (c.turn task))
      (kept : ∀ message, c.deed (.turn task) = .answer message →
        (c.turn task).registry.entries = c.registry.entries)

theorem exists_listens (attentive : c.Attentive) {carried : Bool}
    (inside : (task, .early message id carried) ∈ c.tasks) :
    ∃ deadline, c.Listens task message id deadline := by
  obtain ⟨deadline, window⟩ := (attentive.listening task id).mp ⟨message, carried, inside⟩
  exact ⟨deadline, ⟨carried, inside⟩, window⟩

/-- A task that stands at no early reply does not wait. -/
theorem Attentive.idle_of_deaf (attentive : c.Attentive)
    (deaf : ∀ message id carried, (task, Job.early message id carried) ∉ c.tasks) :
    c.Idle task where
  job := by
    rintro ⟨number, job⟩ member rfl
    cases stands : job.isEarly with
    | false => rfl
    | true =>
        obtain ⟨message, id, carried, rfl⟩ := isEarly_iff.mp stands
        exact absurd member (deaf message id carried)
  window := by
    rintro ⟨token, id, deadline⟩ window rfl
    obtain ⟨message, carried, inside⟩ := (attentive.listening token id).mpr ⟨deadline, window⟩
    exact deaf message id carried inside

/-- **Every turn** spares the other waits, and is one of the three. -/
theorem Attentive.turn_cases (attentive : c.Attentive) (sound : c.Sound registered [])
    (task : TaskId) : Spares task c (c.turn task) ∧ c.TurnCase task := by
  by_cases early : ∃ message id carried, (task, Job.early message id carried) ∈ c.tasks
  · obtain ⟨message, id, carried, inside⟩ := early
    obtain ⟨deadline, listens⟩ := exists_listens attentive inside
    obtain ⟨spares, heard⟩ := turn_listens sound attentive listens
    exact ⟨spares, .heard (.inr listens) heard⟩
  · have deaf : ∀ message id carried, (task, Job.early message id carried) ∉ c.tasks :=
      fun message id carried inside => early ⟨message, id, carried, inside⟩
    have still := attentive.idle_of_deaf deaf
    by_cases comes : ∃ message, c.Arrives task message
    · obtain ⟨message, arrives⟩ := comes
      obtain ⟨job, carried, inside, apart, deed, shape⟩ :=
        runJob_arrives sound attentive.orderly arrives
      have calm := c.calm_called task
      have idle := calm.idle still
      cases known : message.correlationId? with
      | none =>
          let counted := { c.called task with
            tally := (c.called task).tally.count .repliesMalformed }
          have drops : (c.called task).receive task message carried =
              counted.concludeReply task carried := by
            simp only [receive, known]
            rfl
          have spares := ((c.called task).spares_counted counted.tally).trans
            (counted.calm_finish task (if carried then .delivered true else .handled)).toSpares
          have finished : (counted.concludeReply task carried).Over task := over_finish idle.window
          rw [← drops, ← shape] at finished
          refine ⟨?_, .dropped arrives (turn_malformed sound attentive arrives known) finished⟩
          rw [shape, drops]
          exact calm.toSpares.trans spares
      | some id =>
          obtain ⟨spares, hears, panics⟩ := heard_receive idle ⟨job, inside⟩ known carried
          have spared := calm.toSpares.trans spares
          rw [← shape] at spared hears panics
          refine ⟨spared, ?_⟩
          cases there : (c.called task).registry.contains id with
          | true =>
              exact .heard (.inl ⟨arrives, known, .inl there⟩)
                ((hears 0 (.inl there)).of_same rfl rfl rfl)
          | false =>
              cases ends : Registry.windowEnd? (c.called task).now
                  (c.called task).config.earlyReplyWait with
              | none =>
                  obtain ⟨panicked, kept⟩ := panics there ends
                  exact .calm still (calm.trans panicked) fun _ _ => kept
              | some deadline =>
                  exact .heard (.inl ⟨arrives, known, .inr ends⟩)
                    ((hears deadline (.inr ends)).of_same rfl rfl rfl)
    · obtain ⟨calm, kept⟩ := calm_turn sound attentive
        (fun message arrives => comes ⟨message, arrives⟩) deaf
      exact ⟨calm.toSpares, .calm still calm kept⟩

theorem Attentive.turn (attentive : c.Attentive) (sound : c.Sound registered []) (task : TaskId) :
    (c.turn task).Attentive := by
  obtain ⟨spares, turned⟩ := attentive.turn_cases sound task
  cases turned with
  | heard _ heard => exact attentive.of_heard spares heard
  | dropped _ _ finished => exact attentive.of_spares spares finished.idle
  | calm idle calm _ => exact attentive.of_calm calm idle

end Mediation.Coordinator
