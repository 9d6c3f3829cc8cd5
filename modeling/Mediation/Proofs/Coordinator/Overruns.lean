import Mediation.Proofs.Coordinator.TurnedAway

/-!
# Durations that the clock cannot hold

The deadline of a request, the end of an early reply's window, of a wait for the reply address and
of the grace of a stop are instants, made by adding a duration of the caller or of the settings to
the present one. Some durations are too long for that, whatever the clock shows; the longest one is
(`not_holds_longest`). A turn that comes upon such an instant overruns the clock (`Overruns`), and
its task panics; no other turn does (`turn_panics_iff`).

For a request this is too late. It is added to the registry after the transport has accepted it, so
it has been sent and its exchange is lost with the task. If the clock can hold the deadline, the
request is taken in (`TakenIn`): it waits for its verdict and the registry has its exchange.
-/

set_option autoImplicit false

namespace Mediation

/-! ## Windows that the clock can hold -/

namespace Instant

variable {now : Instant} {span : Duration}

theorem windowEnd?_of_times (times : now.Times span) :
    Registry.windowEnd? now span = some (min (now.plus span) lastTimer) := by
  rw [Registry.windowEnd?, after?_eq_some_iff.mpr ⟨times.holds, rfl⟩, Option.bind_some]
  exact timer?_plus_eq_some_iff.mpr ⟨times, rfl⟩

theorem windowEnd?_eq_none_iff : Registry.windowEnd? now span = none ↔ ¬ now.Times span := by
  constructor
  · intro unfit times
    rw [windowEnd?_of_times times] at unfit
    simp at unfit
  · intro exceeds
    refine Option.bind_eq_none_iff.mpr fun sum fits => ?_
    obtain ⟨_, rfl⟩ := after?_eq_some_iff.mp fits
    exact Option.eq_none_iff_forall_ne_some.mpr fun due timed =>
      exceeds (timer?_plus_eq_some_iff.mp timed).1

end Instant

/-- **The registry takes a request** exactly if the clock can hold its deadline. -/
theorem Registry.register?_of_holds {now : Instant} {limit : Duration} (holds : now.Holds limit)
    (registry : Registry) (id : String) (x : Exchange) (ticket : Ticket) :
    ∃ placement, registry.register? now id limit x ticket = some placement ∧
      placement.registry.find? id = some
        { correlationId := id, firstId := none, createdAt := now, deadline := now.plus limit,
          timeout := limit, exchange := x, ticket } := by
  cases registers : registry.register? now id limit x ticket with
  | none =>
      have unfit : now.after? limit = none := Option.map_eq_none_iff.mp registers
      exact absurd holds (Instant.after?_eq_none_iff.mp unfit)
  | some placement =>
      obtain ⟨deadline, fits, entries, _⟩ := register?_eq_some registers
      obtain ⟨_, rfl⟩ := Instant.after?_eq_some_iff.mp fits
      refine ⟨placement, rfl, ?_⟩
      have gone : (registry.without id).entries.find? (fun entry => entry.correlationId = id) =
          none := List.find?_eq_none.mpr fun entry inside => by
        simpa using (mem_without.mp inside).2
      rw [find?, entries, List.find?_append, gone]
      simp

theorem Registry.register?_eq_none_iff {now : Instant} {limit : Duration} {registry : Registry}
    {id : String} {x : Exchange} {ticket : Ticket} :
    registry.register? now id limit x ticket = none ↔ ¬ now.Holds limit :=
  Option.map_eq_none_iff.trans Instant.after?_eq_none_iff

/-- Whether the turn of a job may need an instant that is yet to come. -/
def Job.plans : Job → Bool
  | .request _ _ _ | .register _ _ _ | .sent _ _ _ _ | .reply _ | .deliver _ | .carried _ _
  | .query _ | .stop => true
  | .suspended _ | .watch _ | .early _ _ _ | .sweep _ | .resolve _ | .join _ _ => false

namespace Coordinator

variable {c d : Coordinator} {task : TaskId} {job : Job} {x : Exchange} {limit : Duration}
  {ticket : Ticket} {message : Message} {id : String} {carried : Bool} {deadline : Instant}
  {report : Report}

/-! ## Overruns -/

/-- A turn comes to where its request is registered. -/
inductive Enrols (c : Coordinator) (x : Exchange) (limit : Duration) : Job → Prop
  /-- The request was sent elsewhere. -/
  | awaited {id : String} (running : c.lifecycle.runAllowed = true) :
      Enrols c x limit (.register x id limit)
  /-- The transport accepts the request. -/
  | accepted {job : Job} {assigned : Option String} (asks : job.Asks x limit)
      (accepted : c.answer? job = some (.ok assigned)) (running : c.lifecycle.runAllowed = true) :
      Enrols c x limit job

/-- A turn receives a reply, which was handed in or comes from the transport. -/
inductive Hears (c : Coordinator) (message : Message) : Bool → Job → Prop
  | handed : Hears c message false (.reply message)
  | delivered (listening : c.transport.listening = true) (remains : c.dissolved = false) :
      Hears c message true (.deliver message)
  | carried {due : Instant} (come : due ≤ c.now) (listening : c.transport.listening = true)
      (remains : c.dissolved = false) : Hears c message true (.carried message due)

/-- A turn needs an instant that the clock cannot hold. -/
inductive Overruns (c : Coordinator) : Job → Prop
  /-- The deadline of a request. -/
  | deadline {job : Job} {x : Exchange} {limit : Duration} (enrols : c.Enrols x limit job)
      (exceeds : ¬ c.now.Holds limit) : Overruns c job
  /-- The end of the window of an early reply. -/
  | window {job : Job} {message : Message} {carried : Bool} {id : String}
      (hears : c.Hears message carried job) (known : message.correlationId? = some id)
      (missing : c.registry.contains id = false)
      (exceeds : ¬ c.now.Times c.config.earlyReplyWait) : Overruns c job
  /-- The end of a request's wait for the reply address. -/
  | address {x : Exchange} {limit : Duration} {waiting : Option Instant}
      (unknown : c.replyAddress = none) (unfit : c.addressDeadline? waiting = none) :
      Overruns c (.request x limit waiting)
  /-- The end of anyone else's wait for it. -/
  | query {waiting : Option Instant} (unknown : c.replyAddress = none)
      (unfit : c.addressDeadline? waiting = none) : Overruns c (.query waiting)
  /-- The end of the grace of a stop that has to wait. -/
  | grace (stops : c.lifecycle.beginStop?.isSome = true)
      (unfit : c.now.giveUp? c.config.shutdownGrace = none)
      (busy : (c.background.all fun other => (c.job? other).isNone) = false) :
      Overruns c .stop

theorem Overruns.plans (overruns : c.Overruns job) : job.plans = true := by
  cases overruns with
  | deadline enrols =>
      cases enrols with
      | awaited => rfl
      | accepted asks => cases asks <;> rfl
  | window hears => cases hears <;> rfl
  | address => rfl
  | query => rfl
  | grace => rfl

/-- From `c` to `d` a task has panicked because of the clock. -/
def Panics (c : Coordinator) (task : TaskId) (d : Coordinator) : Prop :=
  d.reports task = .panicked beyondClock :: c.reports task

theorem panics_finish (ended : d.ended = c.ended) :
    c.Panics task (d.finish task report) ↔ report = .panicked beyondClock := by
  rw [Panics, reports_finish, if_pos rfl, reports, ended, reports, List.cons.injEq]
  exact ⟨And.left, fun same => ⟨same, rfl⟩⟩

theorem not_panics_finish (sane : report ≠ .panicked beyondClock) (ended : d.ended = c.ended) :
    ¬ c.Panics task (d.finish task report) :=
  fun panics => sane ((panics_finish ended).mp panics)

theorem not_panics (ended : d.ended = c.ended) : ¬ c.Panics task d := by
  intro panics
  rw [Panics, reports, ended, reports] at panics
  exact List.cons_ne_self _ _ panics.symm

theorem not_panics_collect (ended : d.ended = c.ended) : ¬ c.Panics task (d.collect task ticket) := by
  unfold collect
  cases (d.handoffs.getD ticket Handoff.fresh).look with
  | mk after sight =>
      cases sight with
      | collected verdict =>
          cases verdict with
          | resumed x synchronous =>
              exact not_panics_finish (d := { d with handoffs := _ }) (by simp) ended
          | superseded =>
              exact not_panics_finish (d := { d with handoffs := _ }) (by simp) ended
      | pending => exact not_panics ended
      | gone => exact not_panics ended

/-! ## Turns of requests -/

theorem settleSend_overruns (running : c.lifecycle.runAllowed = true)
    (exceeds : ¬ c.now.Holds limit) (task : TaskId) (x : Exchange) (id : String)
    (assigned : Option String) :
    c.settleSend task x id limit (.ok assigned) = c.finish task (.panicked beyondClock) := by
  rcases c.enrol_cases x id limit with ⟨closed, _⟩ | ⟨_, _, panics⟩ | ⟨_, _, registers, _⟩
  · simp [running] at closed
  · simp only [settleSend, panics]
  · rw [Registry.register?_eq_none_iff.mpr exceeds] at registers
    simp at registers

theorem settleSend_panics_iff (same : Tends c d) (answer : Except Failure (Option String)) :
    c.Panics task (d.settleSend task x id limit answer) ↔
      (∃ assigned, answer = .ok assigned) ∧ c.lifecycle.runAllowed = true ∧
        ¬ c.now.Holds limit := by
  cases answer with
  | error failure =>
      constructor
      · intro panics
        exact absurd panics (not_panics_finish (by simp) same.ended)
      · rintro ⟨⟨_, accepted⟩, _⟩
        simp at accepted
  | ok assigned =>
      -- A request that is registered or refused looks for its verdict.
      have looks : ∀ {enrolled : Coordinator} {ticket : Ticket},
          d.enrol x id limit = .ok (enrolled, ticket) →
            ¬ c.Panics task (d.settleSend task x id limit (.ok assigned)) := by
        intro enrolled ticket enrols
        have ended : enrolled.ended = c.ended := (tends_enrol enrols).ended.trans same.ended
        simp only [settleSend, enrols]
        split
        · exact not_panics_collect ((enrolled.tends_rekey id _).ended.trans ended)
        · exact not_panics_collect ended
      rw [← same.lifecycle, ← same.now]
      rcases d.enrol_cases x id limit with
        ⟨closed, refused⟩ | ⟨running, unfit, _⟩ | ⟨placement, _, registers, placed⟩
      · refine iff_of_false (looks refused) fun overruns => ?_
        simp [closed] at overruns
      · have exceeds := Instant.after?_eq_none_iff.mp unfit
        refine iff_of_true ?_ ⟨⟨assigned, rfl⟩, running, exceeds⟩
        rw [settleSend_overruns running exceeds]
        exact (panics_finish same.ended).mpr rfl
      · refine iff_of_false (looks placed) fun overruns => ?_
        rw [Registry.register?_eq_none_iff.mpr overruns.2.2] at registers
        simp at registers

theorem asks_unique {y : Exchange} {span : Duration} (asks : job.Asks x limit)
    (again : job.Asks y span) : x = y ∧ limit = span := by
  cases asks <;> cases again <;> exact ⟨rfl, rfl⟩

/-- The turn of a request that is not registered yet. -/
theorem asks_panics_iff (asks : job.Asks x limit) :
    c.Panics task (c.runJob task job) ↔ c.Overruns job := by
  cases answered : c.answer? job with
  | none =>
      obtain ⟨unknown, waiting, rfl⟩ := request_of_unanswered asks answered
      cases patience : c.addressDeadline? waiting with
      | none =>
          refine iff_of_true ?_ (.address unknown patience)
          simp only [runJob, seekAddress, unknown, patience]
          exact (panics_finish rfl).mpr rfl
      | some deadline =>
          refine iff_of_false (fun panics => ?_) fun overruns => ?_
          · simp only [runJob, seekAddress, unknown, patience] at panics
            split at panics
            · exact not_panics_finish (by simp) rfl panics
            · exact not_panics (d := c.park task _) rfl panics
          · cases overruns with
            | deadline enrols =>
                cases enrols with
                | accepted _ accepted => simp [answered] at accepted
            | window hears => cases hears
            | address _ unfit => simp [patience] at unfit
  | some answer =>
      obtain ⟨sent, id, tends, _, _, _, runs⟩ := runJob_answered asks answered task
      rw [runs, settleSend_panics_iff tends]
      constructor
      · rintro ⟨⟨assigned, rfl⟩, running, exceeds⟩
        exact .deadline (.accepted asks answered running) exceeds
      · intro overruns
        cases overruns with
        | deadline enrols exceeds =>
            cases enrols with
            | awaited => cases asks
            | @accepted _ assigned again accepted running =>
                obtain ⟨rfl, rfl⟩ := asks_unique asks again
                rw [answered, Option.some_inj] at accepted
                exact ⟨⟨assigned, accepted⟩, running, exceeds⟩
        | window hears => cases hears <;> cases asks
        | address unknown => simp [answer?, unknown] at answered
        | query => cases asks
        | grace => cases asks

theorem register_panics_iff :
    c.Panics task (c.runJob task (.register x id limit)) ↔ c.Overruns (.register x id limit) := by
  change c.Panics task (c.settleSend task x id limit (.ok none)) ↔ _
  rw [settleSend_panics_iff (.refl c)]
  constructor
  · rintro ⟨_, running, exceeds⟩
    exact .deadline (.awaited running) exceeds
  · intro overruns
    cases overruns with
    | deadline enrols exceeds =>
        cases enrols with
        | awaited running => exact ⟨⟨none, rfl⟩, running, exceeds⟩
        | accepted asks => cases asks
    | window hears => cases hears

/-! ## Turns of replies -/

theorem not_panics_conclude (ended : d.ended = c.ended) :
    ¬ c.Panics task (d.concludeReply task carried) := by
  unfold concludeReply
  cases carried <;> exact not_panics_finish (by simp) ended

theorem matchReply_panics {unmatched : Coordinator → Coordinator} (ended : d.ended = c.ended)
    (panics : c.Panics task (d.matchReply task id message carried unmatched)) :
    d.registry.contains id = false ∧ c.Panics task (unmatched d) := by
  cases found : d.registry.find? id with
  | none =>
      refine ⟨Registry.contains_eq_false_iff.mpr found, ?_⟩
      have unanswered : d.registry.resolve id message = (d.registry, none) := by
        simp [Registry.resolve, found]
      simpa only [matchReply, unanswered] using panics
  | some entry =>
      rw [matchReply_eq found] at panics
      exact absurd panics (not_panics_conclude ((tends_complete _ _ _ _).ended.trans ended))

theorem not_panics_orphan (ended : d.ended = c.ended) :
    ¬ c.Panics task (d.orphan task carried) :=
  not_panics_conclude (d := { d with tally := _ }) ended

theorem afterWait_panics_iff (ended : d.ended = c.ended)
    (outcome : Registry × Registry.WaitState) :
    c.Panics task (d.afterWait task message id carried outcome) ↔
      outcome.2 = .beyondClock := by
  obtain ⟨registry, state⟩ := outcome
  match state with
  | .parked =>
      exact iff_of_false (not_panics (d := { d with registry }.park task _) ended) (by simp)
  | .beyondClock => exact iff_of_true ((panics_finish (d := { d with registry }) ended).mpr rfl) rfl
  | .over false =>
      exact iff_of_false (not_panics_orphan (d := { d with registry }) ended) (by simp)
  | .over true =>
      refine iff_of_false (fun panics => ?_) (by simp)
      have unmatched := (matchReply_panics (d := { d with registry }) ended panics).2
      exact not_panics_orphan (d := { d with registry }) ended unmatched

/-- A wait that has begun has its timer. -/
theorem continueWait_ne_beyondClock (registry : Registry) (now : Instant) (token : Token) :
    (registry.continueWait now token).2 ≠ .beyondClock := by
  have listens : ∀ id due, (registry.listen now token id due).2 ≠ .beyondClock := by
    intro id due
    unfold Registry.listen
    split <;> simp [Registry.endWait]
  unfold Registry.continueWait
  split
  · simp
  · split
    · exact listens _ _
    · split <;> simp [Registry.endWait]

theorem receive_panics_iff :
    c.Panics task (c.receive task message carried) ↔
      ∃ id, message.correlationId? = some id ∧ c.registry.contains id = false ∧
        ¬ c.now.Times c.config.earlyReplyWait := by
  cases known : message.correlationId? with
  | none =>
      refine iff_of_false (fun panics => ?_) (by simp)
      simp only [receive, known] at panics
      exact not_panics_conclude (d := { c with tally := _ }) rfl panics
  | some id =>
      cases missing : c.registry.contains id with
      | true =>
          refine iff_of_false (fun panics => ?_) (by simp [missing])
          simp only [receive, known] at panics
          have unmatched := (matchReply_panics rfl panics).1
          simp [missing] at unmatched
      | false =>
          rw [receive_early known missing, ← Instant.windowEnd?_eq_none_iff]
          refine (afterWait_panics_iff (d := { c with tally := _ }) rfl _).trans ?_
          rcases c.registry.beginWait_cases c.now task c.config.earlyReplyWait missing with
            ⟨deadline, ends, runs⟩ | ⟨beyond, registry, outcome, _⟩
          · refine iff_of_false (fun overruns => ?_) (by simp [ends])
            generalize c.registry.beginWait c.now task id c.config.earlyReplyWait = outcome at *
            cases runs <;> simp at overruns
          · rw [outcome]
            exact iff_of_true rfl ⟨id, rfl, missing, beyond⟩

/-- A turn that receives a reply does nothing else. -/
theorem Hears.runJob (hears : c.Hears message carried job) (task : TaskId) :
    c.runJob task job = c.receive task message carried := by
  cases hears with
  | handed => rfl
  | delivered listening remains =>
      simp [Coordinator.runJob, handOver, listening, remains]
  | carried come listening remains =>
      simp [Coordinator.runJob, handOver, come, listening, remains]

theorem Hears.message_eq {other : Message} {again : Bool} (hears : c.Hears message carried job)
    (same : c.Hears other again job) : message = other := by
  cases hears <;> cases same <;> rfl

theorem Hears.panics_iff (hears : c.Hears message carried job) :
    c.Panics task (c.runJob task job) ↔ c.Overruns job := by
  rw [hears.runJob task, receive_panics_iff]
  constructor
  · rintro ⟨id, known, missing, exceeds⟩
    exact .window hears known missing exceeds
  · intro overruns
    cases overruns with
    | deadline enrols =>
        cases enrols with
        | awaited => cases hears
        | accepted asks => cases asks <;> cases hears
    | window again known missing exceeds =>
        obtain rfl := hears.message_eq again
        exact ⟨_, known, missing, exceeds⟩
    | address => cases hears
    | query => cases hears
    | grace => cases hears

theorem not_panics_handOver (unheard : ¬ (c.transport.listening = true ∧ c.dissolved = false)) :
    ¬ c.Panics task (c.handOver task message) := by
  unfold handOver
  split
  · exact not_panics_finish (by simp) rfl
  · next listening =>
      split
      · exact not_panics_finish (by simp) rfl
      · next remains => exact absurd ⟨by simpa using listening, by simpa using remains⟩ unheard

/-! ## Other turns -/

theorem query_panics_iff {waiting : Option Instant} :
    c.Panics task (c.runJob task (.query waiting)) ↔ c.Overruns (.query waiting) := by
  have others : c.Overruns (.query waiting) →
      c.replyAddress = none ∧ c.addressDeadline? waiting = none := by
    intro overruns
    cases overruns with
    | deadline enrols => cases enrols with | accepted asks => cases asks
    | window hears => cases hears
    | query unknown unfit => exact ⟨unknown, unfit⟩
  cases known : c.replyAddress with
  | some address =>
      refine iff_of_false (fun panics => ?_) fun overruns => ?_
      · simp only [runJob, askAddress, known] at panics
        exact not_panics_finish (by simp) rfl panics
      · have := (others overruns).1
        simp [known] at this
  | none =>
      cases patience : c.addressDeadline? waiting with
      | none =>
          refine iff_of_true ?_ (.query known patience)
          simp only [runJob, askAddress, known, patience]
          exact (panics_finish rfl).mpr rfl
      | some deadline =>
          refine iff_of_false (fun panics => ?_) fun overruns => ?_
          · simp only [runJob, askAddress, known, patience] at panics
            split at panics
            · exact not_panics_finish (by simp) rfl panics
            · exact not_panics (d := c.park task _) rfl panics
          · have := (others overruns).2
            simp [patience] at this

theorem not_panics_runSweeper {next : Option Instant} :
    ¬ c.Panics task (c.runSweeper task next) := by
  have tends := c.tends_sweepAt c.now true
  intro panics
  cases next with
  | none =>
      simp only [runSweeper] at panics
      split at panics
      · exact not_panics_finish (by simp [beyondClock, Instant.overflowText]) rfl panics
      · split at panics
        · exact not_panics_finish (by simp) rfl panics
        · exact not_panics (d := c.park task _) rfl panics
  | some next =>
      simp only [runSweeper] at panics
      split at panics
      · split at panics
        · exact not_panics_finish (by simp) tends.ended panics
        · exact not_panics (d := Coordinator.park _ task _) tends.ended panics
      · split at panics
        · exact not_panics_finish (by simp) rfl panics
        · exact not_panics rfl panics

theorem not_panics_runResolver {due : Option Instant} :
    ¬ c.Panics task (c.runResolver task due) := by
  unfold runResolver
  generalize c.transport.resolution = resolution
  obtain ⟨time, found⟩ := resolution
  simp only
  intro panics
  split at panics
  · cases found with
    | error failure => exact not_panics_finish (by simp) rfl panics
    | ok address =>
        simp only at panics
        split at panics
        · exact not_panics_finish (by simp) rfl panics
        · exact not_panics_finish (by simp) (c.tends_publish address).ended panics
  · split at panics
    · exact not_panics_finish (by simp) rfl panics
    · exact not_panics (d := c.park task _) rfl panics

theorem not_panics_concludeStop {tasks : List TaskId} {joined : Bool} (ended : d.ended = c.ended) :
    ¬ c.Panics task (d.concludeStop task tasks joined) := by
  intro panics
  unfold concludeStop at panics
  have quiet : (if joined then d else d.discard tasks).ended = c.ended := by
    split <;> exact ended
  have drained := (tends_drain (if joined then d else d.discard tasks)).ended.trans quiet
  exact not_panics_finish (d := { Coordinator.drain _ with lifecycle := _ }) (by simp) drained panics

theorem not_panics_joinTasks {tasks : List TaskId} {grace : Instant} (ended : d.ended = c.ended) :
    ¬ c.Panics task (d.joinTasks task tasks grace) := by
  unfold joinTasks
  split
  · exact not_panics_concludeStop ended
  · split
    · exact not_panics_concludeStop ended
    · exact not_panics (d := d.park task _) ended

theorem not_panics_see : ¬ c.Panics task (c.see task ticket) := by
  unfold see
  cases (c.handoffs.getD ticket Handoff.fresh).look with
  | mk after sight =>
      cases sight with
      | collected verdict =>
          exact not_panics_finish (d := { c with handoffs := _ }) (by simp) rfl
      | pending => exact not_panics rfl
      | gone => exact not_panics rfl

theorem stop_panics_iff : c.Panics task (c.runJob task .stop) ↔ c.Overruns .stop := by
  have others : c.Overruns .stop → c.lifecycle.beginStop?.isSome = true ∧
      c.now.giveUp? c.config.shutdownGrace = none ∧
      (c.background.all fun other => (c.job? other).isNone) = false := by
    intro overruns
    cases overruns with
    | deadline enrols => cases enrols with | accepted asks => cases asks
    | window hears => cases hears
    | grace stops unfit busy => exact ⟨stops, unfit, busy⟩
  change c.Panics task (c.beginStop task) ↔ _
  cases begun : c.lifecycle.beginStop? with
  | none =>
      rw [beginStop_refused begun]
      refine iff_of_false (not_panics_finish (by simp) rfl) fun overruns => ?_
      have := (others overruns).1
      simp [begun] at this
  | some lifecycle =>
      cases timed : c.now.giveUp? c.config.shutdownGrace with
      | some deadline =>
          rw [beginStop_timed begun timed]
          refine iff_of_false (not_panics_joinTasks rfl) fun overruns => ?_
          have := (others overruns).2.1
          simp [timed] at this
      | none =>
          rw [beginStop_untimed begun timed]
          cases idle : c.background.all fun other => (c.job? other).isNone with
          | true =>
              rw [if_pos rfl]
              refine iff_of_false (not_panics_concludeStop rfl) fun overruns => ?_
              have := (others overruns).2.2
              simp [idle] at this
          | false =>
              rw [if_neg Bool.false_ne_true]
              exact iff_of_true ((panics_finish rfl).mpr rfl)
                (.grace (by simp [begun]) timed idle)

theorem deliver_panics_iff :
    c.Panics task (c.runJob task (.deliver message)) ↔ c.Overruns (.deliver message) := by
  by_cases heard : c.transport.listening = true ∧ c.dissolved = false
  · exact Hears.panics_iff (.delivered heard.1 heard.2)
  · refine iff_of_false (not_panics_handOver heard) fun overruns => ?_
    cases overruns with
    | deadline enrols => cases enrols with | accepted asks => cases asks
    | window hears =>
        cases hears with
        | delivered listening remains => exact heard ⟨listening, remains⟩

theorem carried_panics_iff {due : Instant} :
    c.Panics task (c.runJob task (.carried message due)) ↔ c.Overruns (.carried message due) := by
  by_cases heard : due ≤ c.now ∧ c.transport.listening = true ∧ c.dissolved = false
  · exact Hears.panics_iff (.carried heard.1 heard.2.1 heard.2.2)
  · refine iff_of_false (fun panics => ?_) fun overruns => ?_
    · simp only [runJob] at panics
      split at panics
      · next come => exact not_panics_handOver (fun there => heard ⟨come, there⟩) panics
      · exact not_panics rfl panics
    · cases overruns with
      | deadline enrols => cases enrols with | accepted asks => cases asks
      | window hears =>
          cases hears with
          | carried come listening remains => exact heard ⟨come, listening, remains⟩

/-- **What a turn does panics exactly if it overruns the clock.** -/
theorem runJob_panics_iff (c : Coordinator) (task : TaskId) (job : Job) :
    c.Panics task (c.runJob task job) ↔ c.Overruns job := by
  have calm : job.plans = false → ¬ c.Overruns job := fun present overruns => by
    simp [overruns.plans] at present
  cases job with
  | request x limit waiting => exact asks_panics_iff (.address waiting)
  | sent x id limit answer => exact asks_panics_iff (.answer id answer)
  | register x id limit => exact register_panics_iff
  | reply message => exact Hears.panics_iff .handed
  | deliver message => exact deliver_panics_iff
  | carried message due => exact carried_panics_iff
  | query waiting => exact query_panics_iff
  | stop => exact stop_panics_iff
  | suspended ticket => exact iff_of_false (not_panics_collect rfl) (calm rfl)
  | watch ticket => exact iff_of_false not_panics_see (calm rfl)
  | early message id carried =>
      refine iff_of_false (fun panics => ?_) (calm rfl)
      exact continueWait_ne_beyondClock _ _ _ ((afterWait_panics_iff rfl _).mp panics)
  | sweep next => exact iff_of_false not_panics_runSweeper (calm rfl)
  | resolve due => exact iff_of_false not_panics_runResolver (calm rfl)
  | join tasks deadline => exact iff_of_false (not_panics_joinTasks rfl) (calm rfl)

theorem enrols_called : (c.called task).Enrols x limit job ↔ c.Enrols x limit job := by
  constructor
  · intro enrols
    cases enrols with
    | awaited running => exact .awaited (c := c) running
    | accepted asks accepted running =>
        exact .accepted (c := c) asks ((c.answer?_called task job).symm.trans accepted) running
  · intro enrols
    cases enrols with
    | awaited running => exact .awaited (c := c.called task) running
    | accepted asks accepted running =>
        exact .accepted (c := c.called task) asks ((c.answer?_called task job).trans accepted) running

theorem hears_called : (c.called task).Hears message carried job ↔ c.Hears message carried job := by
  constructor
  · intro hears
    cases hears with
    | handed => exact .handed
    | delivered listening remains => exact .delivered (c := c) listening remains
    | carried come listening remains => exact .carried (c := c) come listening remains
  · intro hears
    cases hears with
    | handed => exact .handed
    | delivered listening remains => exact .delivered (c := c.called task) listening remains
    | carried come listening remains => exact .carried (c := c.called task) come listening remains

theorem overruns_called : (c.called task).Overruns job ↔ c.Overruns job := by
  constructor
  · intro overruns
    cases overruns with
    | deadline enrols exceeds => exact .deadline (enrols_called.mp enrols) exceeds
    | window hears known missing exceeds =>
        exact .window (hears_called.mp hears) known missing exceeds
    | address unknown unfit => exact .address (c := c) unknown unfit
    | query unknown unfit => exact .query (c := c) unknown unfit
    | grace stops unfit busy => exact .grace (c := c) stops unfit busy
  · intro overruns
    cases overruns with
    | deadline enrols exceeds => exact .deadline (enrols_called.mpr enrols) exceeds
    | window hears known missing exceeds =>
        exact .window (hears_called.mpr hears) known missing exceeds
    | address unknown unfit => exact .address (c := c.called task) unknown unfit
    | query unknown unfit => exact .query (c := c.called task) unknown unfit
    | grace stops unfit busy => exact .grace (c := c.called task) stops unfit busy

variable {books : List (Exchange × Duration)}

theorem Sound.turn_panics_iff (sound : c.Sound books []) (standing : c.job? task = some job) :
    c.Panics task (c.turn task) ↔ c.Overruns job := by
  rw [turn_eq standing (sound.leads_called standing).sound.held]
  exact ((c.called task).runJob_panics_iff task job).trans overruns_called

/-! ## Being taken in -/

end Coordinator

/-- An entry is that of a request which came at an instant, with its exchange, and with its deadline
as far away as its timeout says. -/
structure Pending.Keeps (entry : Pending) (ticket : Ticket) (x : Exchange) (limit : Duration)
    (now : Instant) : Prop where
  ticket : entry.ticket = ticket
  exchange : entry.exchange = x
  timeout : entry.timeout = limit
  createdAt : entry.createdAt = now
  deadline : entry.deadline = now.plus limit

/-- Whoever is moved is still there, perhaps under another id. -/
theorem Registry.mem_rekey {registry : Registry} {source : String} {entry : Pending}
    (found : registry.find? source = some entry) (target : String) :
    ∃ moved ∈ (registry.rekey source target).1.registry.entries,
      moved = entry ∨ moved = entry.moveTo target := by
  rcases rekey_cases registry source target with
    ⟨_, unchanged⟩ | ⟨other, under, _, moves⟩
  · rw [unchanged]
    exact ⟨entry, mem_of_find? found, .inl rfl⟩
  · obtain rfl := Option.some.inj (found.symm.trans under)
    rw [moves, place_entries]
    exact ⟨entry.moveTo target, List.mem_append_right _ (List.mem_singleton.mpr rfl), .inr rfl⟩

namespace Coordinator

variable {c d : Coordinator} {task : TaskId} {job : Job} {x : Exchange} {limit : Duration}
  {ticket : Ticket} {message : Message} {id : String} {carried : Bool} {deadline : Instant}
  {books : List (Exchange × Duration)}

/-- From `c` to `d` a request has been registered: its task waits for the verdict on a new ticket,
and the registry has its exchange under that ticket. -/
structure TakenIn (c : Coordinator) (task : TaskId) (x : Exchange) (limit : Duration)
    (d : Coordinator) : Prop where
  waits : d.job? task = some (.suspended c.handoffs.length)
  pending : ∃ entry ∈ d.registry.entries, entry.Keeps c.handoffs.length x limit c.now
  silent : d.ended = c.ended

/-- A request that the coordinator registers while it runs is under the id it comes with. -/
theorem enrol_of_holds (running : c.lifecycle.runAllowed = true) (holds : c.now.Holds limit)
    (x : Exchange) (id : String) :
    ∃ d entry, c.enrol x id limit = .ok (d, c.handoffs.length) ∧
      d.registry.find? id = some entry ∧ entry.Keeps c.handoffs.length x limit c.now := by
  rcases c.enrol_cases x id limit with
    ⟨closed, _⟩ | ⟨_, unfit, _⟩ | ⟨placement, _, registers, placed⟩
  · simp [running] at closed
  · exact absurd holds (Instant.after?_eq_none_iff.mp unfit)
  · obtain ⟨again, same, found⟩ :=
      Registry.register?_of_holds holds c.registry id x c.handoffs.length
    obtain rfl := Option.some.inj (registers.symm.trans same)
    exact ⟨_, _, placed, by rw [adopt_registry]; exact found, rfl, rfl, rfl, rfl, rfl⟩

/-- Whoever is in the registry has no verdict yet. -/
theorem Sound.collect_parks (sound : c.Sound books []) {entry : Pending}
    (inside : entry ∈ c.registry.entries) (task : TaskId) :
    c.collect task entry.ticket = c.park task (.suspended entry.ticket) := by
  have fresh := (sound.agrees inside).2
  have awaited : c.awaited? entry.ticket = some true := by simp [awaited?, fresh, Handoff.fresh]
  rcases c.collect_cases task awaited with ⟨_, parks⟩ | ⟨verdict, _, known, _⟩
  · exact parks
  · simp [verdict?, fresh, Handoff.fresh] at known

/-- A task whose request is in the registry waits for the verdict. -/
theorem Sound.takenIn_collect (sound : d.Sound books []) (same : Tends c d)
    (standing : c.job? task = some job) {entry : Pending} (inside : entry ∈ d.registry.entries)
    (keeps : entry.Keeps c.handoffs.length x limit c.now) :
    c.TakenIn task x limit (d.collect task c.handoffs.length) := by
  have parks := sound.collect_parks inside task
  rw [keeps.ticket] at parks
  rw [parks]
  refine ⟨?_, ⟨entry, inside, keeps⟩, same.ended⟩
  rw [job?_park, if_pos rfl, same.kept standing, Option.map_some]

/-- **A request that is accepted is taken in** if the clock can hold its deadline. -/
theorem Sound.takenIn_settleSend (sound : d.Sound books []) (same : Tends c d)
    (tickets : d.handoffs = c.handoffs) (running : c.lifecycle.runAllowed = true)
    (holds : c.now.Holds limit) (standing : c.job? task = some job) (assigned : Option String) :
    c.TakenIn task x limit (d.settleSend task x id limit (.ok assigned)) := by
  rw [← same.lifecycle] at running
  rw [← same.now] at holds
  obtain ⟨enrolled, entry, enrols, found, keeps⟩ := enrol_of_holds running holds x id
  rw [tickets, same.now] at keeps
  rw [tickets] at enrols
  have entered := same.trans (tends_enrol enrols)
  let enrolment : Enrolment := { exchange := x, id, timeout := limit, assigned }
  have given : d.enrol enrolment.exchange enrolment.id enrolment.timeout =
      .ok (enrolled, c.handoffs.length) := enrols
  have clean := (sound.leads_enrol given).sound
  simp only [settleSend, enrols]
  split
  · next target _ =>
      obtain ⟨moved, inside, kin⟩ := Registry.mem_rekey found target
      rw [← rekey_registry] at inside
      have kept : moved.Keeps c.handoffs.length x limit c.now := by
        rcases kin with rfl | rfl
        · exact keeps
        · exact ⟨keeps.ticket, keeps.exchange, keeps.timeout, keeps.createdAt, keeps.deadline⟩
      exact (clean.leads_rekey id target).sound.takenIn_collect
        (entered.trans (enrolled.tends_rekey id target)) standing inside kept
  · exact clean.takenIn_collect entered standing (Registry.mem_of_find? found) keeps

theorem Sound.takenIn_runJob (sound : c.Sound books []) (standing : c.job? task = some job)
    (enrols : c.Enrols x limit job) (holds : c.now.Holds limit) :
    c.TakenIn task x limit (c.runJob task job) := by
  cases enrols with
  | @awaited id running =>
      change c.TakenIn task x limit (c.settleSend task x id limit (.ok none))
      exact sound.takenIn_settleSend (.refl c) rfl running holds standing none
  | accepted asks accepted running =>
      obtain ⟨sent, id, tends, quiet, _, _, runs⟩ := runJob_answered asks accepted task
      rw [runs]
      exact (sound.of_sameBooks quiet.toSameBooks).takenIn_settleSend tends quiet.handoffs running
        holds standing _

theorem Enrols.runJob_overruns (enrols : c.Enrols x limit job) (exceeds : ¬ c.now.Holds limit)
    (task : TaskId) : ∃ sent : Coordinator, sent.registry = c.registry ∧
      c.runJob task job = sent.finish task (.panicked beyondClock) := by
  cases enrols with
  | @awaited id running => exact ⟨c, rfl, settleSend_overruns running exceeds task x id none⟩
  | accepted asks accepted running =>
      obtain ⟨sent, id, tends, _, same, _, runs⟩ := runJob_answered asks accepted task
      refine ⟨sent, same, runs.trans (settleSend_overruns ?_ ?_ task x id _)⟩
      · rwa [tends.lifecycle]
      · rwa [tends.now]

/-- From `c` to `d` a reply has begun to wait for its request, until an instant. -/
structure Attends (c : Coordinator) (task : TaskId) (message : Message) (carried : Bool)
    (id : String) (deadline : Instant) (d : Coordinator) : Prop where
  waits : d.job? task = some (.early message id carried)
  window : (task, id, deadline) ∈ d.registry.windows
  silent : d.ended = c.ended

/-- **An early reply waits** if the clock can hold the end of its window. -/
theorem attends_receive (standing : c.job? task = some job) (carried : Bool)
    (known : message.correlationId? = some id) (missing : c.registry.contains id = false)
    (times : c.now.Times c.config.earlyReplyWait)
    (later : c.now < min (c.now.plus c.config.earlyReplyWait) Instant.lastTimer) :
    c.Attends task message carried id
      (min (c.now.plus c.config.earlyReplyWait) Instant.lastTimer)
      (c.receive task message carried) := by
  have ends := Instant.windowEnd?_of_times times
  rw [receive_early known missing]
  rcases c.registry.beginWait_cases c.now task c.config.earlyReplyWait missing with
    ⟨again, same, runs⟩ | ⟨beyond, _⟩
  · obtain rfl := Option.some.inj (ends.symm.trans same)
    generalize c.registry.beginWait c.now task id c.config.earlyReplyWait = outcome at runs
    cases runs with
    | ended past => simp [missing, Nat.not_le.mpr later] at past
    | @parked other _ _ _ windows =>
        refine ⟨?_, windows.mem_iff.mpr List.mem_cons_self, rfl⟩
        change (Coordinator.park { c with registry := other, tally := _ } task _).job? task = _
        rw [job?_park, if_pos rfl]
        change (c.job? task).map _ = _
        rw [standing, Option.map_some]
  · simp [beyond] at ends

/-! ## Every turn -/

/-- What a coordinator makes of durations, those that the clock cannot hold among them. -/
structure MindsClock (c : Coordinator) : Prop where
  /-- The registry takes every request whose deadline the clock can hold, and no other one. -/
  registers : ∀ (now : Instant) (id : String) (limit : Duration) (x : Exchange) (ticket : Ticket),
    (c.registry.register? now id limit x ticket = none ↔ ¬ now.Holds limit) ∧
      (now.Holds limit → ∃ placement entry,
        c.registry.register? now id limit x ticket = some placement ∧
          placement.registry.find? id = some entry ∧ entry.Keeps ticket x limit now)
  /-- So does the coordinator, if it runs. -/
  enrols : ∀ (x : Exchange) (id : String) (limit : Duration), c.lifecycle.runAllowed = true →
    (c.enrol x id limit = .error beyondClock ↔ ¬ c.now.Holds limit) ∧
      (c.now.Holds limit → ∃ d entry, c.enrol x id limit = .ok (d, c.handoffs.length) ∧
        d.registry.find? id = some entry ∧ entry.Keeps c.handoffs.length x limit c.now)
  /-- If it does not, it refuses the request whatever the clock can hold, and hands it back. -/
  refuses : ∀ (x : Exchange) (id : String) (limit : Duration), c.lifecycle.runAllowed = false →
    ∃ d, c.enrol x id limit = .ok (d, c.handoffs.length) ∧ d.registry = c.registry ∧
      d.verdict? c.handoffs.length = some (.resumed (x.withFailure c.rejection) true)
  /-- A turn panics exactly if it needs an instant that the clock cannot hold. -/
  panics : ∀ task job, c.job? task = some job → (c.Panics task (c.turn task) ↔ c.Overruns job)
  /-- A request that comes to be registered is taken in if the clock can hold its deadline, -/
  takesIn : ∀ task job x limit, c.job? task = some job → c.Enrols x limit job →
    c.now.Holds limit → c.TakenIn task x limit (c.turn task)
  /-- and otherwise lost: its task has ended, and the registry is as it was. -/
  loses : ∀ task job x limit, c.job? task = some job → c.Enrols x limit job →
    ¬ c.now.Holds limit → (c.turn task).job? task = none ∧ (c.turn task).registry = c.registry
  /-- A reply that comes before its request waits if the clock can hold the end of its window. -/
  attends : ∀ task job message carried id deadline, c.job? task = some job →
    c.Hears message carried job → message.correlationId? = some id →
      c.registry.contains id = false → c.now.Times c.config.earlyReplyWait →
        deadline = min (c.now.plus c.config.earlyReplyWait) Instant.lastTimer →
          c.now < deadline → c.Attends task message carried id deadline (c.turn task)

theorem Sound.mindsClock (sound : c.Sound books []) : c.MindsClock where
  registers now id limit x ticket := by
    refine ⟨Registry.register?_eq_none_iff, fun holds => ?_⟩
    obtain ⟨placement, registers, found⟩ :=
      Registry.register?_of_holds holds c.registry id x ticket
    exact ⟨placement, _, registers, found, rfl, rfl, rfl, rfl, rfl⟩
  enrols x id limit running := by
    refine ⟨⟨fun panics holds => ?_, fun exceeds => ?_⟩, fun holds => enrol_of_holds running holds x id⟩
    · obtain ⟨_, _, enrols, _⟩ := enrol_of_holds running holds x id
      rw [enrols] at panics
      simp at panics
    · rcases c.enrol_cases x id limit with ⟨closed, _⟩ | ⟨_, _, panics⟩ | ⟨_, _, registers, _⟩
      · simp [running] at closed
      · exact panics
      · rw [Registry.register?_eq_none_iff.mpr exceeds] at registers
        simp at registers
  refuses x id limit closed := by
    obtain ⟨rejected, enrols, _, same, known⟩ := enrol_closed closed x id limit
    exact ⟨rejected, enrols, same, by simp [verdict?, known, Handoff.resumed]⟩
  panics task job standing := sound.turn_panics_iff standing
  takesIn task job x limit standing enrols holds := by
    have clean := sound.of_sameBooks (c.quiet_called task).toSameBooks
    have stands : (c.called task).job? task = some job := standing
    rw [turn_eq standing (sound.leads_called standing).sound.held]
    obtain ⟨waits, pending, silent⟩ :=
      clean.takenIn_runJob stands (enrols_called.mpr enrols) holds
    exact ⟨waits, pending, silent⟩
  loses task job x limit standing enrols exceeds := by
    rw [turn_eq standing (sound.leads_called standing).sound.held]
    obtain ⟨sent, same, runs⟩ :=
      Enrols.runJob_overruns (c := c.called task) (enrols_called.mpr enrols) exceeds task
    rw [runs]
    exact ⟨sent.job?_finish task _, same⟩
  attends task job message carried id deadline standing hears known missing times ends later := by
    subst ends
    rw [turn_eq standing (sound.leads_called standing).sound.held,
      (hears_called.mpr hears).runJob task]
    obtain ⟨waits, window, silent⟩ :=
      attends_receive (c := c.called task) standing carried known missing times later
    exact ⟨waits, window, silent⟩

/-- **Durations and the clock.** Whatever a coordinator has been through, and whatever its clock
shows: a task panics at an instant that the clock cannot hold exactly where one is needed. A request
that meets none waits with its exchange in the registry, a reply that meets none waits for its
request; a request that meets one has been sent, if it is one to be sent, and is lost. -/
theorem overruns_panic (config : CoordinatorConfig) (transport : Transport) (naming : Nat → String)
    (choices : List Choice) (calls : ∀ choice ∈ choices, choice.isCall) :
    ((create config transport naming).run choices).MindsClock :=
  ((sound_create config transport naming).run calls).mindsClock

/-- A coordinator that keeps early replies without limit, or so it is meant. -/
def patient : Coordinator :=
  create { (default : CoordinatorConfig) with earlyReplyWait := Duration.longest } default fun _ => ""

/-- Someone waits for a reply without limit, and one comes that nobody waits for. -/
def withoutLimit : List Choice :=
  [.start, .spawn (.register default "z" Duration.longest),
   .spawn (.reply ((Message.ofBody (.text "Bye")).withHeader Message.correlationHeader "a"))]

/-- Both are lost. -/
theorem overruns_panic_withoutLimit :
    (∀ choice ∈ withoutLimit, choice.isCall) ∧
      (patient.run withoutLimit).Panics 2 ((patient.run withoutLimit).turn 2) ∧
      ((patient.run withoutLimit).turn 2).registry.contains "z" = false ∧
      (patient.run withoutLimit).Panics 3 ((patient.run withoutLimit).turn 3) := by
  have calls : ∀ choice ∈ withoutLimit, choice.isCall := by decide
  have minds : (patient.run withoutLimit).MindsClock := overruns_panic _ default _ withoutLimit calls
  have enrols : (patient.run withoutLimit).Enrols default Duration.longest
      (.register default "z" Duration.longest) := .awaited rfl
  have exceeds := Instant.not_holds_longest (patient.run withoutLimit).now
  obtain ⟨_, same⟩ := minds.loses 2 _ default Duration.longest rfl enrols exceeds
  refine ⟨calls, (minds.panics 2 _ rfl).mpr (.deadline enrols exceeds), ?_,
    (minds.panics 3 _ rfl).mpr (.window .handed rfl rfl fun times => exceeds times.holds)⟩
  rw [same]
  rfl

end Coordinator

end Mediation
