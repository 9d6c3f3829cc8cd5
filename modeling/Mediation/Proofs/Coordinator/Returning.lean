import Mediation.Proofs.Coordinator.Sending

/-!
# Replies and returns

The task that brings the reply to a request takes the request out of the registry and leaves the
verdict (`Serves.delivered`); with its next turn the requester returns (`Serves.returned`). Both
turns concern one flight only (`Serves.moves_on`). With the turns that send a request, and those
that concern none, these are all there are (`Serves.turn_cases`), and each keeps the coordinator
serving (`Serves.turn`).
-/

set_option autoImplicit false

namespace Mediation.Coordinator

variable {c d : Coordinator} {task other : TaskId} {settings : Loopback} {index : Nat}
  {flight : Flight} {flights : List Flight} {job : Job}

/-! ## One flight moves on -/

/-- A task has ended, and nothing else about the tasks has changed but who can run. -/
structure Leaves (task : TaskId) (c d : Coordinator) : Prop where
  waits : d.registry.waits = c.registry.waits
  transport : d.transport = c.transport
  config : d.config = c.config
  lifecycle : d.lifecycle = c.lifecycle
  dissolved : d.dissolved = c.dissolved
  address : d.replyAddress = c.replyAddress
  now : d.now = c.now
  begun : d.begun = c.begun
  tasks : ∀ entry, entry ∈ d.tasks ↔ entry ∈ c.tasks ∧ entry.1 ≠ task
  ready : ∀ other ∈ c.ready, other ≠ task → other ∈ d.ready
  ended : ∃ last, last.task = task ∧ d.ended = last :: c.ended

/-- From `c` to `d` the handoff and the entry of one flight have changed. -/
structure Moves (index : Nat) (c d : Coordinator) : Prop where
  size : d.handoffs.length = c.handoffs.length
  handoffs : ∀ other, other ≠ index → d.handoffs[other]? = c.handoffs[other]?
  entries : ∀ entry, entry ∈ d.registry.entries ↔
    entry ∈ c.registry.entries ∧ entry.ticket ≠ index

theorem Leaves.gone (leaves : Leaves task c d) (missing : c.job? other = none) :
    d.job? other = none := by
  rw [job?_eq_none_iff] at missing ⊢
  exact fun entry member => missing entry ((leaves.tasks entry).mp member).1

theorem Leaves.finished (leaves : Leaves task c d) : d.job? task = none :=
  job?_eq_none_iff.mpr fun entry member => ((leaves.tasks entry).mp member).2

theorem Flying.moves (flying : c.Flying settings index flight) {moved : Nat}
    (leaves : Leaves task c d) (moves : Moves moved c d) (apart : index ≠ moved)
    (owner : flight.task ≠ task) (bringer : flight.carrier ≠ task) :
    d.Flying settings index flight := by
  refine flying.keep ((moves.entries _).mpr ⟨flying.entry, apart⟩) (moves.handoffs index apart) ?_
    (Nat.le_of_eq leaves.now.symm) (leaves.now ▸ flying.due) fun now => ?_
  · rintro entry member (same | same)
    · exact (leaves.tasks entry).mpr ⟨member, same ▸ owner⟩
    · exact (leaves.tasks entry).mpr ⟨member, same ▸ bringer⟩
  · rw [leaves.now] at now
    exact leaves.ready _ (flying.comes now) bringer

theorem Answered.moves (answered : c.Answered settings index flight) {moved : Nat}
    (leaves : Leaves task c d) (moves : Moves moved c d) (apart : index ≠ moved)
    (owner : flight.task ≠ task) : d.Answered settings index flight :=
  answered.keep (moves.handoffs index apart)
    (fun entry member same => (leaves.tasks entry).mpr ⟨member, same ▸ owner⟩)
    (leaves.ready _ answered.ready owner) leaves.now

theorem Returned.leaves (returned : c.Returned settings flight) (leaves : Leaves task c d)
    (inside : (task, job) ∈ c.tasks) : d.Returned settings flight := by
  obtain ⟨last, own, more⟩ := leaves.ended
  refine returned.keep (fun report old => ?_) (fun report member => ?_) (leaves.gone returned.gone)
  · rw [more]
    exact List.mem_cons_of_mem _ old
  · rw [more] at member
    rcases List.mem_cons.mp member with rfl | old
    · refine .inr fun same => ?_
      exact job?_eq_none_iff.mp returned.gone _ inside (own.symm.trans same)
    · exact .inl old

/-- **One flight moves on**, and the others stay where they are. -/
theorem Serves.moves_on (serves : c.Serves settings flights) (leaves : Leaves task c d)
    (moves : Moves index c d) (live : ∃ registered, d.Live registered)
    (inside : (task, job) ∈ c.tasks) (there : flights[index]? = some flight)
    (owners : ∀ again, again ≠ index → job ≠ .suspended again)
    (bringers : ∀ again other, flights[again]? = some other → again ≠ index →
      c.Flying settings again other → other.carrier ≠ task)
    (landed : c.Flying settings index flight → flight.carrier = task)
    (stage : d.Answered settings index flight ∨ d.Returned settings flight) :
    d.Serves settings flights := by
  have orderly := serves.orderly
  have owner : ∀ {again : Nat} {number : TaskId}, again ≠ index →
      (number, .suspended again) ∈ c.tasks → number ≠ task := fun apart member =>
    orderly.ne_of_mem member inside (owners _ apart).symm
  have flies : ∀ again other, flights[again]? = some other → again ≠ index →
      c.Flying settings again other → d.Flying settings again other :=
    fun again other listed apart flying => flying.moves leaves moves apart
      (owner apart flying.waits) (bringers again other listed apart flying)
  exact {
    live
    serving := by
      have serving := serves.serving
      exact ⟨leaves.transport ▸ serving.line, leaves.transport ▸ serving.listening,
        leaves.dissolved.trans serving.dissolved, leaves.lifecycle ▸ serving.running,
        leaves.address ▸ serving.address, leaves.config ▸ serving.faults,
        leaves.waits.trans serving.waits⟩
    size := moves.size.trans serves.size
    log := (congrArg Transport.sent leaves.transport).trans serves.log
    assigned := (congrArg Transport.assigned leaves.transport).trans serves.assigned
    carriers := serves.carriers
    begun := leaves.begun ▸ serves.begun
    answerable := serves.answerable
    stages := by
      intro again other listed
      by_cases same : again = index
      · subst same
        rw [there, Option.some_inj] at listed
        exact .inr (listed ▸ stage)
      · rcases serves.stages again other listed with flying | answered | returned
        · exact .inl (flies again other listed same flying)
        · exact .inr (.inl (answered.moves leaves moves same (owner same answered.waits)))
        · exact .inr (.inr (returned.leaves leaves inside))
    entries := by
      intro entry member
      obtain ⟨old, apart⟩ := (moves.entries entry).mp member
      obtain ⟨again, other, listed, rfl, flying⟩ := serves.entries entry old
      exact ⟨again, other, listed, rfl, flies again other listed apart flying⟩
    jobs := by
      rintro ⟨number, job⟩ member
      obtain ⟨old, apart⟩ := (leaves.tasks _).mp member
      cases serves.jobs _ old with
      | background own => exact .background own
      | asks ready => exact .asks (leaves.ready _ ready apart)
      | waits listed own => exact .waits listed own
      | @carries again other _ listed own errand flying =>
          refine .carries listed own errand (flies again other listed (fun same => ?_) flying)
          subst same
          rw [there, Option.some_inj] at listed
          subst listed
          exact apart (own ▸ landed flying)
    reported := by
      obtain ⟨last, own, more⟩ := leaves.ended
      refine serves.reported.more more (own ▸ orderly.begun _ inside) ?_ (own ▸ leaves.finished)
        (Nat.le_of_eq leaves.begun.symm) fun other _ => leaves.gone
      rw [own, orderly.job?_eq_some_iff.mpr inside, Option.isSome_some]
  }

/-! ## Replies -/

/-- The request of a flight gets its own reply, under its own id. -/
theorem answered_reply (faults : c.config.transferFaults = false) (flight : Flight)
    (settings : Loopback) (index : Nat) :
    c.answered ((flight.entry settings index).release (some (flight.reply settings index)) false)
      (flight.reply settings index) = flight.answer settings := by
  cases assigns : settings.assignIds with
  | true =>
      simp [answered, faults, Pending.release, Flight.entry, restored, assigns, Flight.reply,
        Flight.answer, Message.withHeader, Dictionary.insert_insert]
  | false =>
      simp [answered, faults, Pending.release, Flight.entry, restored, assigns, Flight.reply,
        Flight.answer, Flight.replyId]

theorem correlationId?_reply (named : flight.id ≠ "") :
    (flight.reply settings index).correlationId? = some (flight.replyId settings index) := by
  have filled : flight.replyId settings index ≠ "" := by
    unfold Flight.replyId
    split
    · simp [Loopback.assignedId]
    · exact named
  have there : (flight.reply settings index).header? Message.correlationHeader =
      some (flight.replyId settings index) :=
    Dictionary.find?_insert_self _ _ _
  rw [Message.correlationId?, there, Option.filter_some, if_pos (by simpa using filled)]

/-- A request stands in the registry under one id only. -/
theorem Serves.ticket_iff (serves : c.Serves settings flights)
    (there : flights[index]? = some flight) (flying : c.Flying settings index flight)
    {entry : Pending} (inside : entry ∈ c.registry.entries) :
    entry.ticket = index ↔ entry.correlationId = flight.replyId settings index := by
  obtain ⟨_, live⟩ := serves.live
  constructor
  · intro same
    obtain ⟨again, other, listed, rfl, _⟩ := serves.entries entry inside
    obtain rfl : again = index := same
    rw [there, Option.some_inj] at listed
    rw [listed]
    rfl
  · intro same
    rw [live.sound.keys.eq_of_mem inside flying.entry same]
    rfl

theorem Serves.carrier_inj (serves : c.Serves settings flights)
    (there : flights[index]? = some flight) {again : Nat} {other : Flight}
    (listed : flights[again]? = some other) (same : other.carrier = flight.carrier) :
    again = index := by
  have first : (flights.map (·.carrier))[again]? = some flight.carrier := by
    rw [List.getElem?_map, listed, Option.map_some, same]
  have second : (flights.map (·.carrier))[index]? = some flight.carrier := by
    rw [List.getElem?_map, there, Option.map_some]
  have bound : again < (flights.map (·.carrier)).length := by
    rw [List.length_map]
    exact (List.getElem?_eq_some_iff.mp listed).1
  exact (List.getElem?_inj bound serves.carriers).mp (first.trans second.symm)

/-- The reply to a flight has been matched. -/
def matched (c : Coordinator) (settings : Loopback) (index : Nat) (flight : Flight) :
    Coordinator :=
  let holder := (flight.entry settings index).release (some (flight.reply settings index)) false
  { c with
    registry := (c.registry.without (flight.replyId settings index)).report
    tally := (c.tally.count .repliesMatched).observe .replyLatency (c.latency holder)
  }.complete index (flight.answer settings) false

/-- The requester of a flight has taken the verdict. -/
def collected (c : Coordinator) (settings : Loopback) (index : Nat) (flight : Flight) :
    Coordinator :=
  let handoff : Handoff :=
    { armed := false, awaited := false, verdict := some (.resumed (flight.answer settings) false) }
  { c with handoffs := c.handoffs.set index handoff }

theorem Serves.handOver_eq (serves : c.Serves settings flights)
    (there : flights[index]? = some flight) (flying : c.Flying settings index flight) :
    (c.called task).handOver task (flight.reply settings index) =
      ((c.called task).matched settings index flight).finish task (.delivered true) := by
  obtain ⟨_, live⟩ := serves.live
  have found : (c.called task).registry.find? (flight.replyId settings index) =
      some (flight.entry settings index) := live.sound.keys.find?_of_mem flying.entry
  have hears : (c.called task).transport.listening = true ∧ (c.called task).dissolved = false :=
    ⟨serves.serving.listening, serves.serving.dissolved⟩
  have known : (flight.reply settings index).correlationId? =
      some (flight.replyId settings index) :=
    correlationId?_reply (serves.answerable flight (List.mem_of_getElem? there)).named
  have same := answered_reply (c := c.called task) serves.serving.faults flight settings index
  simp only [handOver, hears.1, hears.2, Bool.not_true, Bool.false_eq_true, if_false, receive,
    known]
  rw [matchReply_eq found, same]
  rfl

theorem Answered.collect_eq (answered : c.Answered settings index flight) :
    (c.called task).collect task index =
      ((c.called task).collected settings index flight).finish task
        (.returned (flight.answer settings)) := by
  have verdict : (c.called task).handoffs[index]? = _ := answered.handoff
  simp only [collect, List.getD_eq_getElem?_getD, verdict, Option.getD_some]
  rfl

theorem leaves_matched (c : Coordinator) (task : TaskId) (settings : Loopback) (index : Nat)
    (flight : Flight) :
    Leaves task c (((c.called task).matched settings index flight).finish task (.delivered true)) :=
  { waits := rfl, transport := rfl, config := rfl, lifecycle := rfl, dissolved := rfl
    address := rfl, now := rfl, begun := rfl
    tasks := fun entry => mem_finish_tasks
    ready := fun other can apart => mem_wake.mpr (.inl (List.mem_filter.mpr
      ⟨mem_wake.mpr (.inl (List.mem_filter.mpr ⟨can, by simpa using apart⟩)),
        by simpa using apart⟩))
    ended := ⟨_, rfl, rfl⟩ }

theorem leaves_collected (c : Coordinator) (task : TaskId) (settings : Loopback) (index : Nat)
    (flight : Flight) :
    Leaves task c (((c.called task).collected settings index flight).finish task
      (.returned (flight.answer settings))) :=
  { waits := rfl, transport := rfl, config := rfl, lifecycle := rfl, dissolved := rfl
    address := rfl, now := rfl, begun := rfl
    tasks := fun entry => mem_finish_tasks
    ready := fun other can apart => mem_wake.mpr (.inl (List.mem_filter.mpr
      ⟨List.mem_filter.mpr ⟨can, by simpa using apart⟩, by simpa using apart⟩))
    ended := ⟨_, rfl, rfl⟩ }

/-- **A reply comes** to the request it answers. -/
theorem Serves.delivered (serves : c.Serves settings flights)
    (there : flights[index]? = some flight) (own : flight.carrier = task)
    (flying : c.Flying settings index flight)
    (live : ∃ registered, (((c.called task).matched settings index flight).finish task
      (.delivered true)).Live registered) :
    (((c.called task).matched settings index flight).finish task (.delivered true)).Serves settings
      flights := by
  have inside : (task, flight.errand settings index) ∈ c.tasks := own ▸ flying.errand
  have foreign := errand_ne_suspended flight settings index
  have owner : flight.task ≠ task :=
    serves.orderly.ne_of_mem flying.waits inside (foreign index).symm
  let told := (c.called task).matched settings index flight
  have leaves := c.leaves_matched task settings index flight
  have moves : Moves index c (told.finish task (.delivered true)) :=
    { size := List.length_modify ..
      handoffs := fun other apart => List.getElem?_modify_ne _ _ apart.symm
      entries := fun entry => by
        change entry ∈ (c.registry.without (flight.replyId settings index)).entries ↔ _
        rw [Registry.mem_without]
        exact and_congr_right fun old => not_congr (serves.ticket_iff there flying old).symm }
  refine serves.moves_on leaves moves live inside there (fun again _ => foreign again) ?_
    (fun _ => own) (.inl ⟨?_, ?_, ?_, flying.due⟩)
  · intro again other listed apart _ same
    exact apart (serves.carrier_inj there listed (same.trans own.symm))
  · change (c.handoffs.modify index _)[index]? = _
    rw [List.getElem?_modify_eq, flying.handoff]
    rfl
  · exact (leaves.tasks _).mpr ⟨flying.waits, owner⟩
  · have waiting : (flight.task, Job.suspended index) ∈
        c.tasks.filter fun entry => Job.awaits index entry.2 :=
      List.mem_filter.mpr ⟨flying.waits, by simp [Job.awaits]⟩
    have woken : flight.task ∈ told.ready :=
      mem_wake.mpr (.inr (List.mem_map.mpr ⟨_, waiting, rfl⟩))
    exact mem_wake.mpr (.inl (List.mem_filter.mpr ⟨woken, by simpa using owner⟩))

/-- A flight whose verdict is there is not on its way. -/
theorem Answered.not_flying (answered : c.Answered settings index flight) :
    ¬ c.Flying settings index flight := fun flying => by
  have both := answered.handoff.symm.trans flying.handoff
  simp [Handoff.fresh] at both

/-- **A request returns** with its reply. -/
theorem Serves.returned (serves : c.Serves settings flights)
    (there : flights[index]? = some flight) (own : flight.task = task)
    (answered : c.Answered settings index flight)
    (live : ∃ registered, (((c.called task).collected settings index flight).finish task
      (.returned (flight.answer settings))).Live registered) :
    (((c.called task).collected settings index flight).finish task
      (.returned (flight.answer settings))).Serves settings flights := by
  have inside : (task, .suspended index) ∈ c.tasks := own ▸ answered.waits
  let d := ((c.called task).collected settings index flight).finish task
    (.returned (flight.answer settings))
  have leaves := c.leaves_collected task settings index flight
  have moves : Moves index c d :=
    { size := List.length_set ..
      handoffs := fun other apart => List.getElem?_set_ne apart.symm
      entries := fun entry => by
        change entry ∈ c.registry.entries ↔ _
        refine ⟨fun old => ⟨old, fun same => ?_⟩, And.left⟩
        obtain ⟨again, other, listed, rfl, flying⟩ := serves.entries entry old
        obtain rfl : again = index := same
        rw [there, Option.some_inj] at listed
        exact answered.not_flying (listed ▸ flying) }
  refine serves.moves_on leaves moves live inside there (fun again apart => ?_) ?_
    (fun flying => absurd flying answered.not_flying) (.inr ⟨⟨c.now, ?_⟩, ?_, ?_⟩)
  · simpa using apart.symm
  · intro again other listed apart flying
    exact serves.orderly.ne_of_mem flying.errand inside (errand_ne_suspended other settings again _)
  · rw [own]
    exact List.mem_cons_self
  · intro report member same
    rcases List.mem_cons.mp member with rfl | old
    · rfl
    · have missing := (serves.reported.finished report old).2
      rw [same, own] at missing
      exact absurd inside fun there => job?_eq_none_iff.mp missing _ there rfl
  · rw [own]
    exact leaves.finished

/-! ## Turns -/

theorem park_eq_self (own : ∀ entry ∈ c.tasks, entry.1 = task → entry = (task, job)) :
    c.park task job = c := by
  have same : c.tasks.map (fun entry => if entry.1 = task then (task, job) else entry) =
      c.tasks := by
    refine (List.map_congr_left fun entry inside => ?_).trans (List.map_id _)
    split
    · next here => exact (own entry inside here).symm
    · rfl
  rw [park, same]

/-- A requester whose reply has not come waits on. -/
theorem Flying.collect (flying : c.Flying settings index flight) (orderly : c.Orderly)
    (own : flight.task = task) : (c.called task).collect task index = c.called task := by
  have still : (c.called task).handoffs[index]? = some Handoff.fresh := flying.handoff
  rw [collect_of_fresh still]
  refine park_eq_self fun entry inside same => ?_
  exact List.inj_on_of_nodup_map orderly.distinct inside (own ▸ flying.waits) same

theorem launch?_eq_some {x : Exchange} {timeout : Duration} {waiting : Option Instant}
    {replyTo : String} (standing : c.job? task = some (.request x timeout waiting))
    (known : c.replyAddress = some replyTo) :
    c.launch? (.turn task) =
      some { task, carrier := c.begun, exchange := x, timeout, id := (c.provisionalId x).2, replyTo,
             instant := c.now } := by
  simp [launch?, standing, known]

theorem launch?_eq_none (standing : c.job? task = some job)
    (other : ∀ x timeout waiting, job ≠ .request x timeout waiting) :
    c.launch? (.turn task) = none := by
  cases job with
  | request x timeout waiting => exact absurd rfl (other x timeout waiting)
  | _ => simp [launch?, standing]

/-- A request that is registered has time left. -/
theorem Serves.young (serves : c.Serves settings flights) :
    ∀ entry ∈ c.registry.entries, c.now < entry.deadline := by
  intro entry inside
  obtain ⟨index, flight, there, rfl, flying⟩ := serves.entries entry inside
  exact Nat.lt_of_le_of_lt flying.due (serves.answerable flight (List.mem_of_getElem? there)).early

/-- What a task of the coordinator's own does concerns no request. -/
theorem passes_background (orderly : c.Orderly) (inside : (task, job) ∈ c.tasks)
    (own : Job.isBackground job = true)
    (young : ∀ entry ∈ c.registry.entries, c.now < entry.deadline) :
    Passes task c ((c.called task).runJob task job) := by
  have still : (c.called task).Orderly := ⟨orderly.distinct, orderly.begun, orderly.live⟩
  have runs : Passes task (c.called task) ((c.called task).runJob task job) := by
    obtain ⟨next, rfl⟩ | ⟨due, rfl⟩ := isBackground_cases own
    · exact passes_runSweeper still inside young
    · exact passes_runResolver still inside
  exact (c.passes_called task).trans runs rfl

theorem now_runJob_of_background (c : Coordinator) (task : TaskId)
    (own : Job.isBackground job = true) : ((c.called task).runJob task job).now = c.now := by
  obtain ⟨next, rfl⟩ | ⟨due, rfl⟩ := isBackground_cases own
  · exact ((c.called task).calm_runSweeper task next).now
  · exact ((c.called task).calm_runResolver task due).now

/-- What a turn does while flights are served. -/
inductive Turned (c : Coordinator) (settings : Loopback) (flights : List Flight) (task : TaskId) :
    Coordinator → Prop
  /-- The task has ended, or has nothing to do now. -/
  | idle (launches : c.launch? (.turn task) = none)
      (spent : ∀ job, (task, job) ∈ c.tasks → c.Spent job ∧ Job.isBackground job = false) :
      c.Turned settings flights task (c.called task)
  /-- One of the coordinator's own tasks goes on. -/
  | background {job : Job} (launches : c.launch? (.turn task) = none)
      (inside : (task, job) ∈ c.tasks) (own : Job.isBackground job = true) :
      c.Turned settings flights task ((c.called task).runJob task job)
  /-- A request is sent. -/
  | launched {flight : Flight} {d : Coordinator} (launches : c.launch? (.turn task) = some flight)
      (inside : (task, .request flight.exchange flight.timeout none) ∈ c.tasks)
      (own : flight.task = task) (carrier : flight.carrier = c.begun)
      (instant : flight.instant = c.now)
      (launched : (c.called task).Launched settings flights.length flight d) :
      c.Turned settings flights task d
  /-- A reply comes. -/
  | delivered {index : Nat} {flight : Flight} (launches : c.launch? (.turn task) = none)
      (there : flights[index]? = some flight) (own : flight.carrier = task)
      (flying : c.Flying settings index flight) : c.Turned settings flights task
        (((c.called task).matched settings index flight).finish task (.delivered true))
  /-- A request returns. -/
  | returned {index : Nat} {flight : Flight} (launches : c.launch? (.turn task) = none)
      (there : flights[index]? = some flight) (own : flight.task = task)
      (answered : c.Answered settings index flight) : c.Turned settings flights task
        (((c.called task).collected settings index flight).finish task
          (.returned (flight.answer settings)))

/-- The first turn of a request. -/
theorem Serves.turned_asks (serves : c.Serves settings flights) (replies : settings.Replies)
    {x : Exchange} {timeout : Duration} (inside : (task, .request x timeout none) ∈ c.tasks)
    (admits : ∀ flight, c.launch? (.turn task) = some flight →
      c.Admits settings flights flight) :
    c.Turned settings flights task ((c.called task).runJob task (.request x timeout none)) := by
  obtain ⟨replyTo, known⟩ := Option.isSome_iff_exists.mp serves.serving.address
  let flight : Flight :=
    { task, carrier := c.begun, exchange := x, timeout, id := (c.provisionalId x).2, replyTo,
      instant := c.now }
  have launches : c.launch? (.turn task) = some flight :=
    launch?_eq_some (serves.orderly.job?_eq_some_iff.mpr inside) known
  have admitted := admits flight launches
  have shape : (c.called task).runJob task (.request x timeout none) =
      (c.called task).sendRequest task x timeout replyTo := by
    have knows : (c.called task).replyAddress = some replyTo := known
    simp only [runJob, seekAddress, knows]
  have serving := serves.serving
  have named : flight.id = ((c.called task).provisionalId x).2 := by
    simp only [flight, provisionalId]
    cases x.inbound.correlationId? <;> rfl
  have launched : (c.called task).Launched settings flights.length flight
      ((c.called task).sendRequest task x timeout replyTo) :=
    launched_sendRequest ⟨serving.line, serving.listening, serving.dissolved, serving.running,
      serving.address, serving.faults, serving.waits⟩ replies serves.size serves.assigned named rfl
      admitted.answerable.fits (serves.free admitted) fun assigns =>
        ⟨admitted.assigned assigns _ (Nat.le_refl _), serves.free_assigned assigns⟩
  rw [shape]
  exact .launched launches inside rfl rfl rfl launched

/-- A turn of a requester. -/
theorem Serves.turned_waits (serves : c.Serves settings flights)
    (launches : c.launch? (.turn task) = none)
    (inside : (task, .suspended index) ∈ c.tasks) (there : flights[index]? = some flight)
    (own : flight.task = task) :
    c.Turned settings flights task ((c.called task).collect task index) := by
  have orderly := serves.orderly
  rcases serves.stages index flight there with flying | answered | returned
  · rw [flying.collect orderly own]
    refine .idle launches fun job member => ?_
    rw [orderly.job_eq member inside]
    exact ⟨flying.handoff, rfl⟩
  · rw [answered.collect_eq]
    exact .returned launches there own answered
  · exact absurd own (fun same => job?_eq_none_iff.mp returned.gone _ inside same.symm)

/-- A turn of a task that brings a reply. -/
theorem Serves.turned_carries (serves : c.Serves settings flights)
    (launches : c.launch? (.turn task) = none) (there : flights[index]? = some flight)
    (own : flight.carrier = task) (flying : c.Flying settings index flight) :
    c.Turned settings flights task
      ((c.called task).runJob task (flight.errand settings index)) := by
  have inside : (task, flight.errand settings index) ∈ c.tasks := own ▸ flying.errand
  have comes : c.Turned settings flights task
      ((c.called task).handOver task (flight.reply settings index)) := by
    rw [serves.handOver_eq there flying]
    exact .delivered launches there own flying
  rcases errand_cases flight settings index with ⟨_, errand, _⟩ | ⟨_, errand, _⟩
  · rw [errand]
    exact comes
  · by_cases come : flight.due settings ≤ (c.called task).now
    · simpa only [errand, runJob, if_pos come] using comes
    · simp only [errand, runJob, if_neg come]
      refine .idle launches fun job member => ?_
      rw [serves.orderly.job_eq member inside, errand]
      exact ⟨Nat.lt_of_not_le come, rfl⟩

/-- **What a turn can do.** -/
theorem Serves.turn_cases (serves : c.Serves settings flights) (replies : settings.Replies)
    (task : TaskId)
    (admits : ∀ flight, c.launch? (.turn task) = some flight →
      c.Admits settings flights flight) : c.Turned settings flights task (c.turn task) := by
  obtain ⟨_, live⟩ := serves.live
  cases standing : c.job? task with
  | none =>
      rw [turn_of_ended standing]
      exact .idle (by simp [launch?, standing]) fun job inside =>
        absurd rfl (job?_eq_none_iff.mp standing _ inside)
  | some job =>
      have inside := serves.orderly.job?_eq_some_iff.mp standing
      rw [turn_eq standing (live.sound.leads_called standing).sound.held]
      cases serves.jobs _ inside with
      | background own =>
          refine .background (launch?_eq_none standing ?_) inside own
          rintro x timeout waiting rfl
          simp [Job.isBackground] at own
      | asks ready => exact serves.turned_asks replies inside admits
      | waits there own =>
          exact serves.turned_waits (launch?_eq_none standing (by simp)) inside there own
      | @carries index flight _ there own errand flying =>
          subst errand
          exact serves.turned_carries
            (launch?_eq_none standing (errand_ne_request flight settings index)) there own flying

/-- **Every turn** keeps a coordinator serving. -/
theorem Serves.turn (serves : c.Serves settings flights) (replies : settings.Replies)
    (task : TaskId)
    (admits : ∀ flight, c.launch? (.turn task) = some flight →
      c.Admits settings flights flight) :
    (c.turn task).Serves settings (flights ++ (c.launch? (.turn task)).toList) := by
  obtain ⟨_, alive⟩ := serves.live
  have live : ∃ registered, (c.turn task).Live registered :=
    serves.step_live (show (Choice.turn task).isLive from rfl)
  have gone : ∀ other, other < c.begun → c.job? other = none → (c.turn task).job? other = none :=
    fun other old missing =>
      (alive.ended_step (show (Choice.turn task).isLive from rfl) old missing).2
  have quiet : c.launch? (.turn task) = none →
      flights ++ (c.launch? (.turn task)).toList = flights := fun none_new => by
    rw [none_new, Option.toList_none, List.append_nil]
  have turned := serves.turn_cases replies task admits
  generalize c.turn task = d at turned live gone ⊢
  cases turned with
  | idle launches spent =>
      rw [quiet launches]
      exact serves.of_turn (c.passes_called task) rfl live fun job member => (spent job member).1
  | @background job launches inside own =>
      rw [quiet launches]
      refine serves.of_turn (passes_background serves.orderly inside own serves.young)
        (c.now_runJob_of_background task own) live fun job member => ?_
      rw [serves.orderly.job_eq member inside]
      exact spent_of_background own
  | @launched flight _ launches inside own carrier instant launched =>
      subst own
      rw [launches, Option.toList_some]
      exact serves.launched inside carrier instant (admits flight launches).answerable launched live
        gone
  | delivered launches there own flying =>
      rw [quiet launches]
      exact serves.delivered there own flying live
  | returned launches there own answered =>
      rw [quiet launches]
      exact serves.returned there own answered live

end Mediation.Coordinator
