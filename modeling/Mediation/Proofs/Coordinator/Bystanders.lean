import Mediation.Proofs.Coordinator.Identities
import Mediation.Proofs.Registry.Waits

/-!
# What a turn does to those who wait for registrations

A reply that came before its request waits for it: its task stands at an early reply, and the
registry holds its wait. A turn of another task spares it (`Spares`): it stays where it is, until
the same deadline, and if its id is registered it has been told and can run. A task that does not
wait itself does not begin to by any turn but that of a reply (`Calm`, `calm_runJob`). No stop is
considered here: the coordinator is live.
-/

set_option autoImplicit false

namespace Mediation

/-- Whether a counter tells how a reply ended. -/
def Counter.endsReply : Counter → Bool
  | repliesMatched | repliesOrphaned | repliesMalformed => true
  | _ => false

/-- Whether a job is that of a stop. -/
def Job.isStop : Job → Bool
  | .stop | .join _ _ => true
  | _ => false

def Job.isEarly : Job → Bool
  | .early _ _ _ => true
  | _ => false

namespace Coordinator

variable {c d e : Coordinator} {task : TaskId} {job : Job}

/-- How the replies have ended so far, the latest first. -/
def counts (c : Coordinator) : List Counter := c.tally.counted.filter Counter.endsReply

/-- Every task has a number of its own, and none of them is a stop. -/
structure Orderly (c : Coordinator) : Prop where
  distinct : (c.tasks.map (·.1)).Nodup
  begun : ∀ entry ∈ c.tasks, entry.1 < c.begun
  live : ∀ entry ∈ c.tasks, entry.2.isStop = false

/-- A task does not wait for a registration. -/
structure Idle (c : Coordinator) (task : TaskId) : Prop where
  job : ∀ entry ∈ c.tasks, entry.1 = task → entry.2.isEarly = false
  window : ∀ window ∈ c.registry.windows, window.1 ≠ task

/-- From `c` to `d`, all tasks but one stand where they stood, and those that wait for a registration
go on doing so. -/
structure Spares (task : TaskId) (c d : Coordinator) : Prop where
  orderly : c.Orderly → d.Orderly
  stands : ∀ entry ∈ c.tasks, entry.1 ≠ task → entry ∈ d.tasks
  early : ∀ entry, entry.1 ≠ task → entry.2.isEarly = true →
    (entry ∈ d.tasks ↔ entry ∈ c.tasks)
  windows : d.registry.windowsBut task = c.registry.windowsBut task
  heeds : c.registry.Heeds c.ready task → d.registry.Heeds d.ready task
  ready : ∀ other, other ≠ task → other ∈ c.ready → other ∈ d.ready
  begun : c.begun ≤ d.begun
  gone : ∀ other, other < c.begun → c.job? other = none → d.job? other = none
  config : d.config = c.config
  now : d.now = c.now

/-- Besides, the task itself does not begin to wait, and no reply ends. -/
structure Calm (task : TaskId) (c d : Coordinator) : Prop extends Spares task c d where
  idle : c.Idle task → d.Idle task
  counts : d.counts = c.counts

theorem Spares.trans (first : Spares task c d) (second : Spares task d e) : Spares task c e where
  orderly := second.orderly ∘ first.orderly
  stands entry inside apart := second.stands entry (first.stands entry inside apart) apart
  early entry apart waits := (second.early entry apart waits).trans (first.early entry apart waits)
  windows := second.windows.trans first.windows
  heeds := second.heeds ∘ first.heeds
  ready other apart := second.ready other apart ∘ first.ready other apart
  begun := Nat.le_trans first.begun second.begun
  gone other old missing := second.gone other (Nat.lt_of_lt_of_le old first.begun)
    (first.gone other old missing)
  config := second.config.trans first.config
  now := second.now.trans first.now

theorem Calm.trans (first : Calm task c d) (second : Calm task d e) : Calm task c e where
  toSpares := first.toSpares.trans second.toSpares
  idle := second.idle ∘ first.idle
  counts := second.counts.trans first.counts

/-! ## Moves -/

theorem mem_wake {tasks : List TaskId} :
    task ∈ (c.wake tasks).ready ↔ task ∈ c.ready ∨ task ∈ tasks := by
  have general : ∀ (tasks ready : List TaskId),
      task ∈ tasks.foldl (fun ready task => if ready.contains task then ready else ready ++ [task])
        ready ↔ task ∈ ready ∨ task ∈ tasks := by
    intro tasks
    induction tasks with
    | nil => simp
    | cons first rest ih =>
        intro ready
        rw [List.foldl_cons, ih, List.mem_cons]
        split
        · next inside =>
            have there : first ∈ ready := by simpa using inside
            constructor
            · rintro (old | new)
              · exact .inl old
              · exact .inr (.inr new)
            · rintro (old | rfl | new)
              · exact .inl old
              · exact .inl there
              · exact .inr new
        · simp [or_assoc]
  exact general tasks c.ready

/-- A move that leaves the tasks and the waits alone. -/
theorem calm_of_same (tasks : d.tasks = c.tasks) (begun : d.begun = c.begun)
    (waits : d.registry.waits = c.registry.waits)
    (fewer : d.registry.entries ⊆ c.registry.entries)
    (ready : ∀ other, other ≠ task → other ∈ c.ready → other ∈ d.ready) (counts : d.counts = c.counts)
    (config : d.config = c.config) (now : d.now = c.now) : Calm task c d where
  orderly orderly := ⟨by rw [tasks]; exact orderly.distinct,
    by rw [tasks, begun]; exact orderly.begun, by rw [tasks]; exact orderly.live⟩
  stands entry inside _ := tasks ▸ inside
  early entry _ _ := by rw [tasks]
  windows := by rw [Registry.windowsBut, Registry.windowsBut, Registry.windows, Registry.windows, waits]
  heeds heeds := heeds.mono waits fewer ready
  ready := ready
  begun := Nat.le_of_eq begun.symm
  gone other _ missing := by rw [job?, tasks]; exact missing
  idle idle := ⟨by rw [tasks]; exact idle.job,
    by rw [Registry.windows, waits]; exact idle.window⟩
  counts := counts
  config := config
  now := now

theorem Calm.refl (task : TaskId) (c : Coordinator) : Calm task c c :=
  calm_of_same rfl rfl rfl (List.Subset.refl _) (fun _ _ => id) rfl rfl rfl

theorem calm_wake (c : Coordinator) (tasks : List TaskId) : Calm task c (c.wake tasks) :=
  calm_of_same rfl rfl rfl (List.Subset.refl _) (fun _ _ inside => mem_wake.mpr (.inl inside)) rfl rfl
    rfl

theorem calm_settleTicket (c : Coordinator) (ticket : Ticket) (change : Handoff → Handoff) :
    Calm task c (c.settleTicket ticket change) :=
  calm_of_same rfl rfl rfl (List.Subset.refl _) (fun _ _ inside => mem_wake.mpr (.inl inside)) rfl rfl
    rfl

theorem job?_eq_none_iff {other : TaskId} :
    c.job? other = none ↔ ∀ entry ∈ c.tasks, entry.1 ≠ other := by
  simp [job?]

/-- A task begins that neither waits for a registration nor stops the coordinator. -/
theorem calm_append {ready : List TaskId} (c : Coordinator) {job : Job}
    (early : job.isEarly = false) (live : job.isStop = false)
    (more : ∀ other, other ∈ c.ready → other ∈ ready) :
    Calm task c { c with tasks := c.tasks ++ [(c.begun, job)], ready, begun := c.begun + 1 } where
  orderly orderly := by
    refine ⟨?_, ?_, ?_⟩
    · change ((c.tasks ++ [(c.begun, job)]).map (·.1)).Nodup
      rw [List.map_append, List.nodup_append]
      refine ⟨orderly.distinct, List.nodup_singleton _, ?_⟩
      intro old inside new single same
      obtain ⟨entry, member, rfl⟩ := List.mem_map.mp inside
      have below : entry.1 < c.begun := orderly.begun entry member
      obtain rfl : new = c.begun := List.mem_singleton.mp single
      exact Nat.ne_of_lt below same
    · intro entry member
      rcases List.mem_append.mp member with old | new
      · exact Nat.lt_succ_of_lt (orderly.begun entry old)
      · rw [List.mem_singleton.mp new]
        exact Nat.lt_succ_self _
    · intro entry member
      rcases List.mem_append.mp member with old | new
      · exact orderly.live entry old
      · rw [List.mem_singleton.mp new]
        exact live
  stands entry inside _ := List.mem_append_left _ inside
  early entry _ waits := by
    change entry ∈ c.tasks ++ [(c.begun, job)] ↔ _
    rw [List.mem_append, List.mem_singleton]
    constructor
    · rintro (old | rfl)
      · exact old
      · simp [early] at waits
    · exact .inl
  windows := rfl
  heeds heeds := heeds.mono rfl (List.Subset.refl _) fun other _ => more other
  ready other _ := more other
  begun := Nat.le_succ _
  gone other old missing := by
    rw [job?_eq_none_iff] at missing ⊢
    intro entry member
    rcases List.mem_append.mp member with before | new
    · exact missing entry before
    · rw [List.mem_singleton.mp new]
      exact (Nat.ne_of_lt old).symm
  idle idle := by
    refine ⟨fun entry member own => ?_, idle.window⟩
    rcases List.mem_append.mp member with old | new
    · exact idle.job entry old own
    · rw [List.mem_singleton.mp new]
      exact early
  counts := rfl
  config := rfl
  now := rfl

theorem calm_spawn (c : Coordinator) (early : job.isEarly = false) (live : job.isStop = false) :
    Calm task c (c.spawn job).1 :=
  c.calm_append early live fun _ inside => List.mem_append_left _ inside

theorem calm_spawnAsleep (c : Coordinator) (early : job.isEarly = false)
    (live : job.isStop = false) : Calm task c (c.spawnAsleep job) :=
  c.calm_append early live fun _ inside => inside

/-- A task stands where it will go on. -/
theorem spares_park (c : Coordinator) (task : TaskId) (live : job.isStop = false) :
    Spares task c (c.park task job) where
  orderly orderly := by
    have numbers : (c.park task job).tasks.map (·.1) = c.tasks.map (·.1) := by
      simp only [park, List.map_map]
      refine List.map_congr_left fun entry _ => ?_
      simp only [Function.comp_apply]
      split
      · next own => exact own.symm
      · rfl
    refine ⟨by rw [numbers]; exact orderly.distinct, ?_, ?_⟩
    · intro entry member
      obtain ⟨old, inside, rfl⟩ := List.mem_map.mp member
      split
      · next own => exact own ▸ orderly.begun old inside
      · exact orderly.begun old inside
    · intro entry member
      obtain ⟨old, inside, rfl⟩ := List.mem_map.mp member
      split
      · exact live
      · exact orderly.live old inside
  stands entry inside apart := List.mem_map.mpr ⟨entry, inside, if_neg apart⟩
  early entry apart _ := by
    constructor
    · intro member
      obtain ⟨old, inside, rfl⟩ := List.mem_map.mp member
      split at apart
      · exact absurd rfl apart
      · next other => rwa [if_neg other]
    · exact fun member => List.mem_map.mpr ⟨entry, member, if_neg apart⟩
  windows := rfl
  heeds heeds := heeds
  ready other _ := id
  begun := Nat.le_refl _
  gone other old missing := by
    rw [job?_eq_none_iff] at missing ⊢
    intro entry member
    obtain ⟨before, inside, rfl⟩ := List.mem_map.mp member
    split
    · next own => exact own ▸ missing before inside
    · exact missing before inside
  config := rfl
  now := rfl

theorem calm_park (c : Coordinator) (task : TaskId) (early : job.isEarly = false)
    (live : job.isStop = false) : Calm task c (c.park task job) where
  toSpares := c.spares_park task live
  idle idle := by
    refine ⟨fun entry member own => ?_, idle.window⟩
    obtain ⟨old, inside, rfl⟩ := List.mem_map.mp member
    split
    · exact early
    · next other =>
        rw [if_neg other] at own
        exact absurd own other
  counts := rfl

theorem finish_tasks (c : Coordinator) (task : TaskId) (report : Report) :
    (c.finish task report).tasks = c.tasks.filter fun entry => entry.1 ≠ task := by
  change c.tasks.filter _ = _
  congr 1
  funext entry
  simp

theorem mem_finish_tasks {report : Report} {entry : TaskId × Job} :
    entry ∈ (c.finish task report).tasks ↔ entry ∈ c.tasks ∧ entry.1 ≠ task := by
  simp [finish_tasks]

theorem job?_finish (c : Coordinator) (task : TaskId) (report : Report) :
    (c.finish task report).job? task = none :=
  job?_eq_none_iff.mpr fun _ member => (mem_finish_tasks.mp member).2

/-- A task ends. -/
theorem calm_finish (c : Coordinator) (task : TaskId) (report : Report) :
    Calm task c (c.finish task report) where
  orderly orderly := by
    refine ⟨?_, ?_, ?_⟩
    · rw [finish_tasks]
      exact orderly.distinct.sublist (List.filter_sublist.map _)
    · exact fun entry member => orderly.begun entry (mem_finish_tasks.mp member).1
    · exact fun entry member => orderly.live entry (mem_finish_tasks.mp member).1
  stands entry inside apart := mem_finish_tasks.mpr ⟨inside, apart⟩
  early entry apart _ := by
    rw [mem_finish_tasks]
    exact ⟨And.left, fun member => ⟨member, apart⟩⟩
  windows := rfl
  heeds heeds := heeds.mono rfl (List.Subset.refl _) fun other apart inside =>
    mem_wake.mpr (.inl (List.mem_filter.mpr ⟨inside, by simpa using apart⟩))
  ready other apart inside :=
    mem_wake.mpr (.inl (List.mem_filter.mpr ⟨inside, by simpa using apart⟩))
  begun := Nat.le_refl _
  gone other _ missing := by
    rw [job?_eq_none_iff] at missing ⊢
    exact fun entry member => missing entry (mem_finish_tasks.mp member).1
  idle idle := ⟨fun entry member own => absurd own (mem_finish_tasks.mp member).2, idle.window⟩
  counts := rfl
  config := rfl
  now := rfl

/-- What a placement has done is taken over: the waits for the id are told. -/
theorem calm_adopt (c : Coordinator) {placement : Registry.Placement}
    (tells : c.registry.Tells placement) : Calm task c (c.adopt placement) := by
  let placed := { c with registry := placement.registry }.wake placement.woken
  have ready : ∀ other, other ∈ placed.ready ↔ other ∈ c.ready ∨ other ∈ placement.woken :=
    fun other => mem_wake
  have first : Calm task c placed :=
    { orderly := fun orderly => ⟨orderly.distinct, orderly.begun, orderly.live⟩
      stands := fun _ inside _ => inside
      early := fun _ _ _ => .rfl
      windows := by
        change placement.registry.windowsBut task = _
        rw [Registry.windowsBut, tells.windows]
        rfl
      heeds := fun heeds => tells.heeds heeds (fun other _ inside => (ready other).mpr (.inl inside))
        fun other inside => (ready other).mpr (.inr inside)
      ready := fun other _ inside => (ready other).mpr (.inl inside)
      begun := Nat.le_refl _
      gone := fun _ _ missing => missing
      idle := fun idle => ⟨idle.job, by
        change ∀ window ∈ placement.registry.windows, _
        rw [tells.windows]
        exact idle.window⟩
      counts := rfl
      config := rfl
      now := rfl }
  cases displaced : placement.displaced with
  | none =>
      have same : c.adopt placement = placed := by
        simp only [adopt, displaced]
        rfl
      rw [same]
      exact first
  | some entry =>
      have same : c.adopt placement = placed.supersede entry.ticket := by
        simp only [adopt, displaced]
        rfl
      rw [same]
      exact first.trans (placed.calm_settleTicket entry.ticket Handoff.supersede)

/-! ## Requests -/

theorem calm_rekey (c : Coordinator) (source target : String) :
    Calm task c (c.rekey source target).1 :=
  c.calm_adopt (c.registry.tells_rekey source target)

theorem calm_enrol {x : Exchange} {id : String} {timeout : Duration} {ticket : Ticket}
    (enrols : c.enrol x id timeout = .ok (d, ticket)) : Calm task c d := by
  have opens : Calm task c c.opened :=
    calm_of_same rfl rfl rfl (List.Subset.refl _) (fun _ _ inside => inside) rfl rfl rfl
  rcases c.enrol_cases x id timeout with
    ⟨closed, refused⟩ | ⟨_, _, panics⟩ | ⟨placement, _, registers, placed⟩
  · rw [refused, Except.ok.injEq, Prod.mk.injEq] at enrols
    rw [← enrols.1]
    exact opens.trans (c.opened.calm_settleTicket _ _)
  · rw [panics] at enrols
    simp at enrols
  · rw [placed, Except.ok.injEq, Prod.mk.injEq] at enrols
    rw [← enrols.1]
    exact opens.trans (c.opened.calm_adopt (Registry.tells_register? registers))

theorem calm_look (c : Coordinator) (ticket : Ticket) (after : Handoff) :
    Calm task c { c with handoffs := c.handoffs.set ticket after } :=
  calm_of_same rfl rfl rfl (List.Subset.refl _) (fun _ _ => id) rfl rfl rfl

theorem calm_collect (c : Coordinator) (task : TaskId) (ticket : Ticket) :
    Calm task c (c.collect task ticket) := by
  cases looks : (c.handoffs.getD ticket Handoff.fresh).look with
  | mk after sight =>
      cases sight with
      | collected verdict =>
          have looked : Calm task c { c with handoffs := c.handoffs.set ticket after } :=
            c.calm_look ticket after
          cases verdict with
          | resumed x synchronous =>
              simp only [collect, looks]
              exact looked.trans (calm_finish _ task _)
          | superseded =>
              simp only [collect, looks]
              exact looked.trans (calm_finish _ task _)
      | _ =>
          simp only [collect, looks]
          exact c.calm_park task rfl rfl

theorem calm_see (c : Coordinator) (task : TaskId) (ticket : Ticket) :
    Calm task c (c.see task ticket) := by
  cases looks : (c.handoffs.getD ticket Handoff.fresh).look with
  | mk after sight =>
      cases sight with
      | collected verdict =>
          simp only [see, looks]
          exact (c.calm_look ticket after).trans (calm_finish _ task _)
      | _ =>
          simp only [see, looks]
          exact .refl task c

theorem calm_settleSend (c : Coordinator) (task : TaskId) (x : Exchange) (id : String)
    (timeout : Duration) (answer : Except Failure (Option String)) :
    Calm task c (c.settleSend task x id timeout answer) := by
  cases answer with
  | error failure => exact c.calm_finish task _
  | ok assigned =>
      cases enrols : c.enrol x id timeout with
      | error panic =>
          simp only [settleSend, enrols]
          exact c.calm_finish task _
      | ok outcome =>
          obtain ⟨enrolled, ticket⟩ := outcome
          have entered : Calm task c enrolled := calm_enrol enrols
          simp only [settleSend, enrols]
          split
          · next target _ =>
              exact (entered.trans (enrolled.calm_rekey id target)).trans
                (calm_collect _ task ticket)
          · exact entered.trans (calm_collect _ task ticket)

theorem calm_provisionalId (c : Coordinator) (x : Exchange) : Calm task c (c.provisionalId x).1 := by
  unfold provisionalId
  split
  · exact .refl task c
  · exact calm_of_same rfl rfl rfl (List.Subset.refl _) (fun _ _ => id) rfl rfl rfl

theorem calm_carry (c : Coordinator) (reply : Option (Message × Duration)) :
    Calm task c (c.carry reply) := by
  cases reply with
  | none => exact .refl task c
  | some carried =>
      obtain ⟨message, time⟩ := carried
      simp only [carry]
      split
      · exact c.calm_spawn rfl rfl
      · exact c.calm_spawnAsleep rfl rfl

theorem calm_sendRequest (c : Coordinator) (task : TaskId) (x : Exchange) (timeout : Duration)
    (address : String) : Calm task c (c.sendRequest task x timeout address) := by
  let named := c.provisionalId x
  let dispatch := named.1.transport.send x.inbound address named.2
  let launched := { named.1 with transport := dispatch.transport }
  have launches : Calm task named.1 launched :=
    calm_of_same rfl rfl rfl (List.Subset.refl _) (fun _ _ => id) rfl rfl rfl
  have sent := (c.calm_provisionalId x).trans (launches.trans (launched.calm_carry dispatch.reply))
  exact sent.trans (calm_settleSend _ task x named.2 timeout dispatch.answer)

theorem calm_seekAddress (c : Coordinator) (task : TaskId) (x : Exchange) (timeout : Duration)
    (waiting : Option Instant) : Calm task c (c.seekAddress task x timeout waiting) := by
  unfold seekAddress
  split
  · exact c.calm_sendRequest task x timeout _
  · split
    · exact c.calm_finish task _
    · split
      · exact c.calm_finish task _
      · exact c.calm_park task rfl rfl

theorem calm_askAddress (c : Coordinator) (task : TaskId) (waiting : Option Instant) :
    Calm task c (c.askAddress task waiting) := by
  unfold askAddress
  split
  · exact c.calm_finish task _
  · split
    · exact c.calm_finish task _
    · split
      · exact c.calm_finish task _
      · exact c.calm_park task rfl rfl

/-! ## Background tasks -/

theorem calm_taken (c : Coordinator) {registry : Registry} (waits : registry.waits = c.registry.waits)
    (fewer : registry.entries ⊆ c.registry.entries) : Calm task c { c with registry } :=
  calm_of_same rfl rfl waits fewer (fun _ _ => id) rfl rfl rfl

/-- A request whose deadline has passed is counted and handed back without a reply. -/
def expire (c : Coordinator) (entry : Pending) : Coordinator :=
  ({ c with tally := c.tally.count .repliesTimedOut } : Coordinator).process
    (entry.release none true)

theorem calm_expire (c : Coordinator) (entries : List Pending) :
    Calm task c (entries.foldl expire c) := by
  induction entries generalizing c with
  | nil => exact .refl task c
  | cons entry rest ih =>
      have counted : Calm task c { c with tally := c.tally.count .repliesTimedOut } :=
        calm_of_same rfl rfl rfl (List.Subset.refl _) (fun _ _ => id) rfl rfl rfl
      exact (counted.trans (calm_settleTicket _ _ _)).trans (ih (c.expire entry))

theorem sweep_waits (registry : Registry) (now : Instant) :
    (registry.sweep now).1.waits = registry.waits := by
  simp only [Registry.sweep]
  split <;> rfl

theorem calm_sweepAt (c : Coordinator) : Calm task c (c.sweepAt c.now true).1 := by
  have taken : Calm task c { c with registry := (c.registry.sweep c.now).1 } :=
    c.calm_taken (sweep_waits _ _) (c.registry.sweep_subset c.now)
  refine taken.trans ?_
  change Calm task _ (List.foldl _ _ (c.registry.sweep c.now).2)
  rw [Registry.sweep_holders, List.foldl_map]
  exact calm_expire _ _

theorem calm_runSweeper (c : Coordinator) (task : TaskId) (next : Option Instant) :
    Calm task c (c.runSweeper task next) := by
  cases next with
  | none =>
      simp only [runSweeper]
      split
      · exact c.calm_finish task _
      · split
        · exact c.calm_finish task _
        · exact c.calm_park task rfl rfl
  | some next =>
      simp only [runSweeper]
      split
      · have swept : Calm task c (c.sweepAt c.now true).1 := c.calm_sweepAt
        split
        · exact swept.trans (calm_finish _ task _)
        · exact swept.trans (calm_park _ task rfl rfl)
      · split
        · exact c.calm_finish task _
        · exact .refl task c

theorem calm_publish (c : Coordinator) (address : String) : Calm task c (c.publish address) :=
  calm_of_same rfl rfl rfl (List.Subset.refl _) (fun _ _ inside => mem_wake.mpr (.inl inside)) rfl rfl
    rfl

theorem calm_runResolver (c : Coordinator) (task : TaskId) (due : Option Instant) :
    Calm task c (c.runResolver task due) := by
  unfold runResolver
  generalize c.transport.resolution = resolution
  obtain ⟨time, found⟩ := resolution
  simp only
  split
  · cases found with
    | error failure => exact c.calm_finish task _
    | ok address =>
        simp only
        split
        · exact c.calm_finish task _
        · exact (c.calm_publish address).trans (calm_finish _ task _)
  · split
    · exact c.calm_finish task _
    · exact c.calm_park task rfl rfl

/-! ## Turns -/

/-- Whether a job is that of a reply that has come or waits. -/
def Job.isReply : Job → Bool
  | .reply _ | .deliver _ | .carried _ _ | .early _ _ _ => true
  | _ => false

/-- **A turn of a task that is no reply** begins no wait and ends no reply. -/
theorem calm_runJob (c : Coordinator) (task : TaskId) (reply : Job.isReply job = false)
    (live : job.isStop = false) : Calm task c (c.runJob task job) := by
  cases job with
  | request x timeout waiting => exact c.calm_seekAddress task x timeout waiting
  | register x id timeout => exact c.calm_settleSend task x id timeout (.ok none)
  | sent x id timeout answer => exact c.calm_settleSend task x id timeout answer
  | suspended ticket => exact c.calm_collect task ticket
  | watch ticket => exact c.calm_see task ticket
  | query waiting => exact c.calm_askAddress task waiting
  | sweep next => exact c.calm_runSweeper task next
  | resolve due => exact c.calm_runResolver task due
  | reply message => exact absurd reply (by simp [Job.isReply])
  | deliver message => exact absurd reply (by simp [Job.isReply])
  | carried message due => exact absurd reply (by simp [Job.isReply])
  | early message id carried => exact absurd reply (by simp [Job.isReply])
  | stop => exact absurd live (by simp [Job.isStop])
  | join tasks deadline => exact absurd live (by simp [Job.isStop])

end Coordinator

end Mediation
