import Mathlib.Data.List.Perm.Subperm
import Mediation.Proofs.Coordinator.Returning

/-!
# Turns come to an end

While flights are served, tasks that can run cannot keep each other running for ever. The measure
(`Coordinator.work`) counts the tasks that can run, every reply under way once and every request
that was not sent twice. A turn takes its task from those that can run. Sending a request makes at
most the task run that brings the reply, and the request is gone from the count; bringing a reply
makes at most the requester run, and the reply is gone. So every turn of a task that can run lowers
the measure (`Serves.work_turn_lt`), whatever the order of the turns.
-/

set_option autoImplicit false

namespace Mediation.Coordinator

variable {c d : Coordinator} {task other : TaskId} {settings : Loopback} {index : Nat}
  {flight : Flight} {flights : List Flight} {job next : Job} {report : Report}

/-- How many tasks what a task does can still make run, counting those that they make run. -/
def Job.work : Job → Nat
  | .request _ _ _ => 2
  | .deliver _ | .carried _ _ => 1
  | _ => 0

/-- The work of some tasks. -/
def load : List (TaskId × Job) → Nat
  | [] => 0
  | entry :: rest => Job.work entry.2 + load rest

/-- At most so many turns can be taken by tasks that can run, before none can. -/
def work (c : Coordinator) : Nat := c.ready.length + load c.tasks

/-! ## What moves do to the work -/

theorem not_asking_of_background (own : Job.isBackground job = true) :
    Job.needsAddress job = false := by
  obtain ⟨next, rfl⟩ | ⟨due, rfl⟩ := isBackground_cases own <;> rfl

theorem load_perm {tasks again : List (TaskId × Job)} (same : tasks.Perm again) :
    load tasks = load again := by
  induction same with
  | nil => rfl
  | cons entry _ ih => exact congrArg (Job.work entry.2 + ·) ih
  | swap first second rest => exact Nat.add_left_comm _ _ _
  | trans _ _ first second => exact first.trans second

theorem load_append (tasks more : List (TaskId × Job)) :
    load (tasks ++ more) = load tasks + load more := by
  induction tasks with
  | nil => exact (Nat.zero_add _).symm
  | cons entry rest ih => rw [List.cons_append, load, ih, load, Nat.add_assoc]

/-- A task among the others. -/
theorem Orderly.tasks_perm (orderly : c.Orderly) (inside : (task, job) ∈ c.tasks) :
    c.tasks.Perm ((task, job) :: c.tasks.filter fun entry => decide (entry.1 ≠ task)) := by
  have nodup := List.Nodup.of_map _ orderly.distinct
  refine (List.perm_ext_iff_of_nodup nodup ?_).mpr fun entry => ?_
  · exact List.nodup_cons.mpr ⟨by simp, nodup.filter _⟩
  · rw [List.mem_cons, List.mem_filter]
    by_cases same : entry.1 = task
    · refine ⟨fun member => .inl ?_, ?_⟩
      · exact List.inj_on_of_nodup_map orderly.distinct member inside same
      · rintro (rfl | ⟨member, _⟩)
        · exact inside
        · exact member
    · have apart : entry ≠ (task, job) := by
        rintro rfl
        exact same rfl
      simp [apart, same]

theorem Orderly.load_eq (orderly : c.Orderly) (inside : (task, job) ∈ c.tasks) :
    load c.tasks =
      Job.work job + load (c.tasks.filter fun entry => decide (entry.1 ≠ task)) := by
  rw [load_perm (orderly.tasks_perm inside), load]

theorem Orderly.load_park (orderly : c.Orderly) (inside : (task, job) ∈ c.tasks) :
    load (c.park task next).tasks =
      Job.work next + load (c.tasks.filter fun entry => decide (entry.1 ≠ task)) := by
  have kept : (c.tasks.filter fun entry => decide (entry.1 ≠ task)).map
      (fun entry => if entry.1 = task then (task, next) else entry) =
        c.tasks.filter fun entry => decide (entry.1 ≠ task) := by
    refine (List.map_congr_left fun entry member => ?_).trans (List.map_id _)
    exact if_neg (by simpa using (List.mem_filter.mp member).2)
  have parked := (orderly.tasks_perm inside).map
    fun entry : TaskId × Job => if entry.1 = task then (task, next) else entry
  rw [List.map_cons, kept, if_pos rfl] at parked
  rw [park, load_perm parked, load]

theorem length_called (ready : task ∈ c.ready) :
    (c.called task).ready.length < c.ready.length :=
  List.length_filter_lt_length_iff_exists.mpr ⟨task, ready, by simp⟩

theorem length_wake_le (tasks : List TaskId) :
    (c.wake tasks).ready.length ≤ c.ready.length + tasks.length := by
  induction tasks generalizing c with
  | nil => exact Nat.le_refl _
  | cons task rest ih =>
      have first : (c.wake [task]).ready.length ≤ c.ready.length + 1 := by
        simp only [wake, List.foldl_cons, List.foldl_nil]
        split <;> simp
      have later : (c.wake (task :: rest)).ready = ((c.wake [task]).wake rest).ready := rfl
      rw [later, List.length_cons]
      have both := @ih (c.wake [task])
      omega

/-- Who can run already is not woken. -/
theorem wake_eq_self {tasks : List TaskId} (ready : ∀ task ∈ tasks, task ∈ c.ready) :
    c.wake tasks = c := by
  have general : tasks.foldl
      (fun ready task => if ready.contains task then ready else ready ++ [task]) c.ready =
        c.ready := by
    induction tasks with
    | nil => rfl
    | cons task rest ih =>
        have first : c.ready.contains task = true := by
          simpa using ready task List.mem_cons_self
        rw [List.foldl_cons, if_pos first]
        exact ih fun other member => ready other (List.mem_cons_of_mem _ member)
  rw [wake, general]

/-- A task ends for which no stop waits. -/
theorem length_finish_le (alone : ∀ entry ∈ c.tasks, Job.joins task entry.2 = false) :
    (c.finish task report).ready.length ≤ c.ready.length := by
  have nobody : ((c.finish task report).tasks.filter fun entry => Job.joins task entry.2) = [] :=
    List.filter_eq_nil_iff.mpr fun entry member => by
      rw [alone entry (mem_finish_tasks.mp member).1]
      simp
  have shape : (c.finish task report).ready =
      ((c.discard [task]).wake (((c.finish task report).tasks.filter
        fun entry => Job.joins task entry.2).map (·.1))).ready := rfl
  rw [shape, nobody]
  exact List.length_filter_le ..

theorem Orderly.work_finish_le (orderly : c.Orderly) (inside : (task, job) ∈ c.tasks)
    (alone : ∀ entry ∈ c.tasks, Job.joins task entry.2 = false) :
    (c.finish task report).work + Job.work job ≤ c.work := by
  have shorter : (c.finish task report).ready.length ≤ c.ready.length := length_finish_le alone
  have lighter := orderly.load_eq inside
  rw [work, work, finish_tasks]
  omega

theorem Orderly.work_park (orderly : c.Orderly) (inside : (task, job) ∈ c.tasks) :
    (c.park task next).work + Job.work job = c.work + Job.work next := by
  have before := orderly.load_eq inside
  rw [work, work, orderly.load_park inside, before]
  change c.ready.length + _ + _ = _
  omega

/-! ## Turns -/

/-- What holds of every kind of job there is while flights are served. -/
theorem Serves.all_jobs (serves : c.Serves settings flights) {P : TaskId → Job → Prop}
    (sweep : ∀ task next, P task (.sweep next))
    (resolve : ∀ task due, P task (.resolve due))
    (asks : ∀ task x timeout, task ∈ c.ready → P task (.request x timeout none))
    (waits : ∀ index flight, flights[index]? = some flight → P flight.task (.suspended index))
    (deliver : ∀ task message, P task (.deliver message))
    (carried : ∀ task message due, P task (.carried message due)) :
    ∀ entry ∈ c.tasks, P entry.1 entry.2 := by
  rintro ⟨task, job⟩ inside
  cases serves.jobs _ inside with
  | background own =>
      obtain ⟨next, rfl⟩ | ⟨due, rfl⟩ := isBackground_cases own
      · exact sweep task next
      · exact resolve task due
  | asks ready => exact asks task _ _ ready
  | @waits index flight there own => exact own ▸ waits index flight there
  | @carries index flight _ there own errand flying =>
      rcases errand_cases flight settings index with ⟨_, same, _⟩ | ⟨_, same, _⟩
      · exact (errand.symm.trans same) ▸ deliver task _
      · exact (errand.symm.trans same) ▸ carried task _ _

/-- No stop waits for a task. -/
theorem Serves.alone (serves : c.Serves settings flights) (task : TaskId) :
    ∀ entry ∈ c.tasks, Job.joins task entry.2 = false :=
  serves.all_jobs (P := fun _ job => Job.joins task job = false) (fun _ _ => rfl)
    (fun _ _ => rfl) (fun _ _ _ _ => rfl) (fun _ _ _ => rfl) (fun _ _ => rfl) fun _ _ _ => rfl

/-- Who needs the reply address can run, since it is known. -/
theorem Serves.asking_ready (serves : c.Serves settings flights) :
    ∀ entry ∈ c.tasks, Job.needsAddress entry.2 = true → entry.1 ∈ c.ready := by
  refine serves.all_jobs (P := fun task job => Job.needsAddress job = true → task ∈ c.ready)
    ?_ ?_ (fun _ _ _ ready _ => ready) ?_ ?_ ?_
  all_goals simp [Job.needsAddress]

/-- Only its requester waits for the verdict on a request. -/
theorem Serves.length_awaits_le (serves : c.Serves settings flights)
    (there : flights[index]? = some flight) :
    (c.tasks.filter fun entry => Job.awaits index entry.2).length ≤ 1 := by
  have only : ∀ entry ∈ c.tasks, Job.awaits index entry.2 = true →
      (entry.1, entry.2) = (flight.task, .suspended index) := by
    refine serves.all_jobs (P := fun task job => Job.awaits index job = true →
      (task, job) = (flight.task, .suspended index)) ?_ ?_ ?_ (fun again other listed waits => ?_)
      ?_ ?_
    case refine_4 =>
      obtain rfl : again = index := by simpa [Job.awaits] using waits
      rw [there, Option.some_inj] at listed
      rw [listed]
    all_goals simp [Job.awaits]
  have nodup := (List.Nodup.of_map _ serves.orderly.distinct).filter
    fun entry => Job.awaits index entry.2
  have within : (c.tasks.filter fun entry => Job.awaits index entry.2) ⊆
      [(flight.task, .suspended index)] := fun entry member =>
    have inside := List.mem_filter.mp member
    List.mem_singleton.mpr (only entry inside.1 inside.2)
  exact (nodup.subperm within).length_le

/-- What a task of the coordinator's own does makes nobody run. -/
theorem work_runSweeper_le (orderly : c.Orderly) {next : Option Instant}
    (inside : (task, .sweep next) ∈ c.tasks)
    (alone : ∀ entry ∈ c.tasks, Job.joins task entry.2 = false)
    (young : ∀ entry ∈ c.registry.entries, c.now < entry.deadline) :
    (c.runSweeper task next).work ≤ c.work := by
  have ends : ∀ report, (c.finish task report).work ≤ c.work := fun report =>
    orderly.work_finish_le inside alone
  have goesOn : ∀ again, (c.park task (.sweep again)).work ≤ c.work := fun again =>
    Nat.le_of_eq (orderly.work_park inside)
  cases next with
  | none =>
      simp only [runSweeper]
      split
      · exact ends _
      · split
        · exact ends _
        · exact goesOn _
  | some next =>
      simp only [runSweeper]
      split
      · rw [sweepAt_eq_self young]
        split
        · exact ends _
        · exact goesOn _
      · split
        · exact ends _
        · exact Nat.le_refl _

theorem work_runResolver_le (orderly : c.Orderly) {due : Option Instant}
    (inside : (task, .resolve due) ∈ c.tasks)
    (alone : ∀ entry ∈ c.tasks, Job.joins task entry.2 = false)
    (asking : ∀ entry ∈ c.tasks, Job.needsAddress entry.2 = true → entry.1 ∈ c.ready) :
    (c.runResolver task due).work ≤ c.work := by
  have ends : ∀ report, (c.finish task report).work ≤ c.work := fun report =>
    orderly.work_finish_le inside alone
  have tells : ∀ address report, ((c.publish address).finish task report).work ≤ c.work := by
    intro address report
    have told : c.publish address = { c with replyAddress := some address } := by
      refine wake_eq_self fun other member => ?_
      obtain ⟨entry, waiting, rfl⟩ := List.mem_map.mp member
      obtain ⟨standing, needs⟩ := List.mem_filter.mp waiting
      exact asking entry standing needs
    rw [told]
    exact ends report
  unfold runResolver
  generalize c.transport.resolution = resolution
  obtain ⟨time, found⟩ := resolution
  simp only
  split
  · cases found with
    | error failure => exact ends _
    | ok address =>
        simp only
        split
        · exact ends _
        · exact tells _ _
  · split
    · exact ends _
    · exact Nat.le_of_eq (orderly.work_park inside)

theorem Serves.work_background_le (serves : c.Serves settings flights)
    (inside : (task, job) ∈ c.tasks) (own : Job.isBackground job = true) :
    ((c.called task).runJob task job).work ≤ (c.called task).work := by
  have orderly := serves.orderly
  have still : (c.called task).Orderly := ⟨orderly.distinct, orderly.begun, orderly.live⟩
  obtain ⟨next, rfl⟩ | ⟨due, rfl⟩ := isBackground_cases own
  · exact work_runSweeper_le still inside (serves.alone task) serves.young
  · refine work_runResolver_le still inside (serves.alone task) fun entry member needs => ?_
    refine List.mem_filter.mpr ⟨serves.asking_ready entry member needs, ?_⟩
    have apart : entry.1 ≠ task := fun same => by
      rw [not_asking_of_background (own_of_mem orderly inside rfl entry member same)] at needs
      simp at needs
    simpa using apart

theorem work_errand (flight : Flight) (settings : Loopback) (index : Nat) :
    Job.work (flight.errand settings index) = 1 := by
  rcases errand_cases flight settings index with ⟨_, errand, _⟩ | ⟨_, errand, _⟩ <;>
    rw [errand] <;> rfl

/-- Sending a request makes at most the task run that brings its reply. -/
theorem Launched.work_le (orderly : c.Orderly)
    (inside : (flight.task, .request flight.exchange flight.timeout none) ∈ c.tasks)
    (launched : (c.called flight.task).Launched settings index flight d) :
    d.work ≤ (c.called flight.task).work := by
  have apart : c.begun ≠ flight.task := Nat.ne_of_gt (orderly.begun _ inside)
  have tasks : d.tasks = (c.park flight.task (.suspended index)).tasks ++
      [(c.begun, flight.errand settings index)] := by
    rw [launched.tasks, List.map_append, List.map_singleton]
    exact congrArg ((c.park flight.task (.suspended index)).tasks ++ [·]) (if_neg apart)
  have lighter : load d.tasks + 1 = load c.tasks := by
    have before := orderly.load_eq inside
    rw [tasks, load_append, load, work_errand, before, orderly.load_park inside]
    simp only [Job.work, load]
    omega
  have longer : d.ready.length ≤ (c.called flight.task).ready.length + 1 := by
    rw [launched.ready]
    split
    · exact Nat.le_of_eq List.length_append
    · exact Nat.le_succ _
  change d.ready.length + load d.tasks ≤ (c.called flight.task).ready.length + load c.tasks
  omega

/-- A reply makes at most its requester run. -/
theorem Serves.work_delivered_le (serves : c.Serves settings flights)
    (there : flights[index]? = some flight) (flying : c.Flying settings index flight) :
    (((c.called flight.carrier).matched settings index flight).finish flight.carrier
      (.delivered true)).work ≤ (c.called flight.carrier).work := by
  have orderly := serves.orderly
  let told := (c.called flight.carrier).matched settings index flight
  have still : told.Orderly := ⟨orderly.distinct, orderly.begun, orderly.live⟩
  have ends : (told.finish flight.carrier (.delivered true)).work + 1 ≤ told.work := by
    rw [← work_errand flight settings index]
    exact still.work_finish_le flying.errand (serves.alone flight.carrier)
  have wakes : told.ready.length ≤ (c.called flight.carrier).ready.length + 1 := by
    have waiting := serves.length_awaits_le there
    have woken := (c.called flight.carrier).length_wake_le
      ((c.tasks.filter fun entry => Job.awaits index entry.2).map (·.1))
    rw [List.length_map] at woken
    exact Nat.le_trans woken (Nat.add_le_add_left waiting _)
  have same : told.work ≤ (c.called flight.carrier).work + 1 := by
    change told.ready.length + load c.tasks ≤ (c.called flight.carrier).ready.length +
      load c.tasks + 1
    omega
  exact Nat.le_of_succ_le_succ (Nat.le_trans ends same)

/-- **Every turn of a task that can run** leaves less work. -/
theorem Serves.work_turn_lt (serves : c.Serves settings flights) (replies : settings.Replies)
    (admits : ∀ flight, c.launch? (.turn task) = some flight → c.Admits settings flights flight)
    (ready : task ∈ c.ready) : (c.turn task).work < c.work := by
  have calls : (c.called task).work < c.work := Nat.add_lt_add_right (length_called ready) _
  have orderly := serves.orderly
  refine Nat.lt_of_le_of_lt ?_ calls
  have turned := serves.turn_cases replies task admits
  generalize c.turn task = d at turned
  cases turned with
  | idle launches spent => exact Nat.le_refl _
  | background launches inside own => exact serves.work_background_le inside own
  | launched launches inside own carrier instant launched =>
      subst own
      exact launched.work_le orderly inside
  | delivered launches there own flying =>
      subst own
      exact serves.work_delivered_le there flying
  | @returned index flight launches there own answered =>
      subst own
      have still : ((c.called flight.task).collected settings index flight).Orderly :=
        ⟨orderly.distinct, orderly.begun, orderly.live⟩
      exact still.work_finish_le answered.waits (serves.alone flight.task)

end Mediation.Coordinator
