import Mediation.Proofs.Coordinator.Suspensions
import Mediation.Proofs.Registry.Keys
import Mediation.Proofs.Registry.Trails

/-!
# Correlation ids survive every move

A request that is sent goes by the id it brings, or by a new one, until its transport assigns it
another; whoever knows it may move it on. The reply has to carry the id under which the request is
registered when it comes, and the requester gets it back under the id that was registered first
(`ids_survive`). The run keeps the trails of all requests beside the coordinator
(`Coordinator.trails`), and each event shifts them as its deed says (`Coordinator.shifts`).
-/

set_option autoImplicit false

namespace Mediation.Coordinator

open scoped List

variable {c d : Coordinator} {task : TaskId} {sofar : List Trail} {deed : Deed}
  {registered : List (Exchange × Duration)}

/-- What a deed does to the trails. A request that is refused begins a trail too; the id that its
transport has assigned then moves whoever is under its own. -/
def shifts (c : Coordinator) : Deed → List Shift
  | .enrol enrolment =>
    if !c.lifecycle.runAllowed then
      .enter enrolment.id ::
        (enrolment.assigned.bind (c.registry.rekeyShift? enrolment.id)).toList
    else if (c.now.after? enrolment.timeout).isSome then
      .enter enrolment.id ::
        (enrolment.assigned.filter (· ≠ enrolment.id)).toList.map (.move c.handoffs.length)
    else []
  | .rekey source target => (c.registry.rekeyShift? source target).toList
  | .answer _ | .sweep | .stop | .other => []

/-- The trails of a run, from those before it. -/
def trailsAfter (c : Coordinator) (sofar : List Trail) : List Choice → List Trail
  | [] => sofar
  | choice :: rest =>
    (c.step choice).trailsAfter (shifted sofar (c.shifts (c.deed choice))) rest

/-- The trails of all requests that a run registers, by ticket. -/
def trails (c : Coordinator) (choices : List Choice) : List Trail := c.trailsAfter [] choices

/-- What a deed does to the trails depends on the requests, the lifecycle and the clock only. -/
theorem Quiet.shifts (quiet : Quiet c d) (deed : Deed) : d.shifts deed = c.shifts deed := by
  have finds : ∀ id, d.registry.find? id = c.registry.find? id := fun id => by
    rw [Registry.find?, Registry.find?, quiet.entries]
  have moves : ∀ source, d.registry.rekeyShift? source = c.registry.rekeyShift? source :=
    fun source => by
      funext target
      rw [Registry.rekeyShift?, Registry.rekeyShift?, finds]
  cases deed with
  | enrol enrolment =>
      simp only [Coordinator.shifts, quiet.lifecycle, quiet.now, quiet.handoffs, moves]
  | rekey source target => simp only [Coordinator.shifts, moves]
  | _ => rfl

/-! ## Deeds that move no request -/

theorem collect_registry (c : Coordinator) (task : TaskId) (ticket : Ticket) :
    (c.collect task ticket).registry = c.registry := by
  cases looks : (c.handoffs.getD ticket Handoff.fresh).look with
  | mk after sight =>
      cases sight with
      | collected verdict =>
          cases verdict <;>
            · simp only [collect, looks]
              rfl
      | _ =>
          simp only [collect, looks]
          rfl

theorem see_registry (c : Coordinator) (task : TaskId) (ticket : Ticket) :
    (c.see task ticket).registry = c.registry := by
  cases looks : (c.handoffs.getD ticket Handoff.fresh).look with
  | mk after sight =>
      cases sight with
      | collected verdict =>
          simp only [see, looks]
          rfl
      | _ => simp only [see, looks]

theorem process_registry (c : Coordinator) (holder : Holder) :
    (c.process holder).registry = c.registry := by
  unfold process
  split
  · rfl
  · split <;> rfl

theorem matchReply_subset {id : String} {message : Message} {carried : Bool}
    {unmatched : Coordinator → Coordinator}
    (otherwise : (unmatched c).registry.entries ⊆ c.registry.entries) :
    (c.matchReply task id message carried unmatched).registry.entries ⊆ c.registry.entries := by
  rcases Registry.resolve_cases c.registry id message with ⟨_, unchanged⟩ | ⟨entry, _, taken⟩
  · simp only [matchReply, unchanged]
    exact otherwise
  · simp only [matchReply, taken]
    change (process _ _).registry.entries ⊆ _
    rw [process_registry]
    exact c.registry.without_subset id

theorem afterWait_subset {message : Message} {id : String} {carried : Bool}
    (outcome : Registry × Registry.WaitState)
    (entries : outcome.1.entries = c.registry.entries) :
    (c.afterWait task message id carried outcome).registry.entries ⊆ c.registry.entries := by
  rw [← entries]
  obtain ⟨registry, (_ | _) | _ | _⟩ := outcome
  · exact List.Subset.refl _
  · exact matchReply_subset (c := { c with registry }) (List.Subset.refl _)
  · exact List.Subset.refl _
  · exact List.Subset.refl _

theorem receive_subset (c : Coordinator) (task : TaskId) (message : Message) (carried : Bool) :
    (c.receive task message carried).registry.entries ⊆ c.registry.entries := by
  cases known : message.correlationId? with
  | none =>
      simp only [receive, known]
      exact List.Subset.refl _
  | some id =>
      simp only [receive, known]
      exact matchReply_subset (afterWait_subset _ (c.registry.beginWait_entries _ task id _))

theorem handOver_subset (c : Coordinator) (task : TaskId) (message : Message) :
    (c.handOver task message).registry.entries ⊆ c.registry.entries := by
  unfold handOver
  split
  · exact List.Subset.refl _
  · split
    · exact List.Subset.refl _
    · exact c.receive_subset task message true

theorem sweepAt_registry (c : Coordinator) (instant : Instant) (counting : Bool) :
    (c.sweepAt instant counting).1.registry = (c.registry.sweep instant).1 := by
  have general : ∀ (holders : List Holder) (c : Coordinator),
      (holders.foldl (fun c holder =>
        (if counting then { c with tally := c.tally.count .repliesTimedOut } else c).process holder)
        c).registry = c.registry := by
    intro holders
    induction holders with
    | nil => exact fun c => rfl
    | cons holder rest ih =>
        intro c
        rw [List.foldl_cons, ih, process_registry]
        split <;> rfl
  exact general _ _

theorem runSweeper_subset (c : Coordinator) (task : TaskId) (next : Option Instant) :
    (c.runSweeper task next).registry.entries ⊆ c.registry.entries := by
  cases next with
  | none =>
      simp only [runSweeper]
      split
      · exact List.Subset.refl _
      · split <;> exact List.Subset.refl _
  | some next =>
      have swept : (c.sweepAt c.now true).1.registry.entries ⊆ c.registry.entries := by
        rw [sweepAt_registry]
        exact c.registry.sweep_subset c.now
      simp only [runSweeper]
      split
      · split <;> exact swept
      · split <;> exact List.Subset.refl _

theorem joinTasks_subset (c : Coordinator) (task : TaskId) (tasks : List TaskId)
    (deadline : Instant) :
    (c.joinTasks task tasks deadline).registry.entries ⊆ c.registry.entries := by
  unfold joinTasks
  split
  · rw [concludeStop_entries]
    exact List.nil_subset _
  · split
    · rw [concludeStop_entries]
      exact List.nil_subset _
    · exact List.Subset.refl _

theorem beginStop_subset (c : Coordinator) (task : TaskId) :
    (c.beginStop task).registry.entries ⊆ c.registry.entries := by
  cases begun : c.lifecycle.beginStop? with
  | none =>
      rw [beginStop_refused begun]
      exact List.Subset.refl _
  | some lifecycle =>
      cases timer : c.now.giveUp? c.config.shutdownGrace with
      | some deadline =>
          rw [beginStop_timed begun timer]
          exact joinTasks_subset _ _ _ _
      | none =>
          rw [beginStop_untimed begun timer]
          split
          · rw [concludeStop_entries]
            exact List.nil_subset _
          · exact List.Subset.refl _

/-! ## Registering and moving -/

theorem rekey_registry (c : Coordinator) (source target : String) :
    (c.rekey source target).1.registry = (c.registry.rekey source target).1.registry :=
  adopt_registry _ _

/-- In sound books the tickets of the requests in the registry are distinct. -/
theorem Sound.entry_tickets (sound : c.Sound registered []) :
    (c.registry.entries.map (·.ticket)).Nodup := sound.tickets

theorem Sound.traced_rekey (sound : c.Sound registered [])
    (traced : Traced sofar c.registry.entries) (source target : String) :
    Traced (shifted sofar (c.registry.rekeyShift? source target).toList)
      (c.rekey source target).1.registry.entries := by
  rw [rekey_registry]
  exact Registry.traced_rekey traced sound.keys sound.entry_tickets source target

/-- **A request that is registered or refused begins a trail**, and the id that its transport has
assigned shifts the trails as it does once the request is registered. -/
theorem Sound.traced_enrol (sound : c.Sound registered [])
    (traced : Traced sofar c.registry.entries) (size : sofar.length = registered.length)
    {enrolment : Enrolment} {ticket : Ticket}
    (enrols : c.enrol enrolment.exchange enrolment.id enrolment.timeout = .ok (d, ticket)) :
    Traced (shifted sofar [.enter enrolment.id]) d.registry.entries ∧
      c.shifts (.enrol enrolment) = .enter enrolment.id ::
        (enrolment.assigned.bind (d.registry.rekeyShift? enrolment.id)).toList := by
  have entered := sound.leads_enrol enrols
  rcases c.enrol_cases enrolment.exchange enrolment.id enrolment.timeout with
    ⟨closed, refused⟩ | ⟨_, _, panics⟩ | ⟨placement, running, registers, placed⟩
  · rw [refused, Except.ok.injEq, Prod.mk.injEq] at enrols
    rw [← enrols.1]
    refine ⟨traced.enter enrolment.id, ?_⟩
    simp only [shifts, closed]
    rfl
  · rw [panics] at enrols
    simp at enrols
  · rw [placed, Except.ok.injEq, Prod.mk.injEq] at enrols
    have registry : d.registry = placement.registry := by
      rw [← enrols.1, adopt_registry]
    obtain ⟨deadline, fits, entries, _⟩ := Registry.register?_eq_some registers
    refine ⟨?_, ?_⟩
    · rw [registry]
      rw [sound.size, ← size] at registers
      exact Registry.traced_register? traced registers
    · let new : Pending := ⟨enrolment.id, none, c.now, deadline, enrolment.timeout,
        enrolment.exchange, c.handoffs.length⟩
      have inside : new ∈ d.registry.entries := by
        rw [registry, entries]
        exact List.mem_append_right _ List.mem_cons_self
      have found : d.registry.find? enrolment.id = some new :=
        entered.sound.keys.find?_of_mem inside
      simp only [shifts, running, fits, Bool.not_true, Bool.false_eq_true, if_false,
        Option.isSome_some, if_true]
      cases enrolment.assigned with
      | none => rfl
      | some target =>
          by_cases same : enrolment.id = target
          · simp [Registry.rekeyShift?, same]
          · simp [Registry.rekeyShift?, same, Ne.symm same, found, new]

/-- Where registering fails, no trail begins. -/
theorem shifts_of_error {enrolment : Enrolment} {panic : Panic}
    (fails : c.enrol enrolment.exchange enrolment.id enrolment.timeout = .error panic) :
    c.shifts (.enrol enrolment) = [] := by
  rcases c.enrol_cases enrolment.exchange enrolment.id enrolment.timeout with
    ⟨_, refused⟩ | ⟨running, unfit, _⟩ | ⟨placement, _, _, placed⟩
  · rw [refused] at fails
    simp at fails
  · simp [shifts, running, unfit]
  · rw [placed] at fails
    simp at fails

theorem Sound.traced_settleSend (sound : c.Sound registered [])
    (traced : Traced sofar c.registry.entries) (size : sofar.length = registered.length)
    (enrolment : Enrolment) :
    Traced (shifted sofar (c.shifts (.enrol enrolment)))
      (c.settleSend task enrolment.exchange enrolment.id enrolment.timeout
        (.ok enrolment.assigned)).registry.entries := by
  cases enrols : c.enrol enrolment.exchange enrolment.id enrolment.timeout with
  | error panic =>
      rw [shifts_of_error enrols]
      simp only [settleSend, enrols]
      exact traced
  | ok outcome =>
      obtain ⟨enrolled, ticket⟩ := outcome
      have clean := (sound.leads_enrol enrols).sound
      obtain ⟨entered, shape⟩ := sound.traced_enrol traced size enrols
      rw [shape]
      simp only [settleSend, enrols]
      rw [collect_registry]
      cases assigned : enrolment.assigned with
      | none => exact entered
      | some target =>
          by_cases same : target = enrolment.id
          · have stays : (some target).filter (fun id => id ≠ enrolment.id) = none := by
              simp [Option.filter, same]
            rw [stays]
            simpa [Registry.rekeyShift?, same] using entered
          · have moves : (some target).filter (fun id => id ≠ enrolment.id) = some target := by
              simp [Option.filter, same]
            rw [moves]
            exact clean.traced_rekey entered enrolment.id target

/-! ## Turns and events -/

theorem Sound.traced_sent (sound : c.Sound registered [])
    (traced : Traced sofar c.registry.entries) (size : sofar.length = registered.length)
    (x : Exchange) (id : String) (timeout : Duration) (answer : Except Failure (Option String)) :
    Traced (shifted sofar (c.shifts (c.jobDeed (.sent x id timeout answer))))
      (c.settleSend task x id timeout answer).registry.entries := by
  cases answer with
  | ok assigned => exact sound.traced_settleSend traced size { exchange := x, id, timeout, assigned }
  | error failure => exact traced

theorem Sound.traced_request (sound : c.Sound registered [])
    (traced : Traced sofar c.registry.entries) (size : sofar.length = registered.length)
    (x : Exchange) (timeout : Duration) (waiting : Option Instant) :
    Traced (shifted sofar (c.shifts (c.jobDeed (.request x timeout waiting))))
      (c.seekAddress task x timeout waiting).registry.entries := by
  cases known : c.replyAddress with
  | none =>
      have idle : c.jobDeed (.request x timeout waiting) = .other := by simp [jobDeed, known]
      rw [idle, (c.quiet_awaitAddress x timeout waiting known).entries]
      exact traced
  | some address =>
      obtain ⟨sent, provisional, answer, quiet, sends, deeds⟩ :=
        c.sendRequest_cases task x timeout address
      rw [deeds known waiting, ← quiet.shifts]
      simp only [seekAddress, known]
      rw [sends]
      have before : Traced sofar sent.registry.entries := by
        rw [quiet.entries]
        exact traced
      exact (sound.of_sameBooks quiet.toSameBooks).traced_sent before size x provisional timeout
        answer

/-- **Every turn** shifts the trails as its deed says. -/
theorem Sound.traced_runJob (sound : c.Sound registered [])
    (traced : Traced sofar c.registry.entries) (size : sofar.length = registered.length)
    (task : TaskId) (job : Job) :
    Traced (shifted sofar (c.shifts (c.jobDeed job))) (c.runJob task job).registry.entries := by
  cases job with
  | request x timeout waiting => exact sound.traced_request traced size x timeout waiting
  | register x id timeout => exact sound.traced_sent traced size x id timeout (.ok none)
  | sent x id timeout answer => exact sound.traced_sent traced size x id timeout answer
  | suspended ticket =>
      change Traced _ (c.collect task ticket).registry.entries
      rw [collect_registry]
      exact traced
  | watch ticket =>
      change Traced _ (c.see task ticket).registry.entries
      rw [see_registry]
      exact traced
  | reply message => exact traced.subset (c.receive_subset task message false)
  | deliver message => exact traced.subset (c.handOver_subset task message)
  | carried message due =>
      refine traced.subset ?_
      simp only [runJob]
      split
      · exact c.handOver_subset task message
      · exact List.Subset.refl _
  | early message id carried =>
      exact traced.subset (afterWait_subset _ (c.registry.continueWait_entries c.now task))
  | query waiting =>
      change Traced _ (c.askAddress task waiting).registry.entries
      rw [(c.quiet_askAddress task waiting).entries]
      exact traced
  | sweep next =>
      have idle : c.shifts (c.jobDeed (.sweep next)) = [] := by cases next <;> rfl
      rw [idle]
      exact traced.subset (c.runSweeper_subset task next)
  | resolve due =>
      change Traced _ (c.runResolver task due).registry.entries
      rw [(c.quiet_runResolver task due).entries]
      exact traced
  | stop =>
      have idle : c.shifts (c.jobDeed .stop) = [] := by
        simp only [jobDeed]
        split <;> rfl
      rw [idle]
      exact traced.subset (c.beginStop_subset task)
  | join tasks deadline => exact traced.subset (c.joinTasks_subset task tasks deadline)

/-- **Every event** shifts the trails as its deed says. -/
theorem Sound.traced_step (sound : c.Sound registered [])
    (traced : Traced sofar c.registry.entries) (size : sofar.length = registered.length)
    (choice : Choice) :
    Traced (shifted sofar (c.shifts (c.deed choice))) (c.step choice).registry.entries := by
  cases choice with
  | turn task =>
      cases standing : c.job? task with
      | none =>
          have deed : c.deed (.turn task) = .other := by simp [Coordinator.deed, standing]
          have gone : (c.called task).job? task = none := standing
          rw [called] at gone
          rw [deed]
          simp only [step, turn, gone]
          exact traced
      | some job =>
          have quiet := c.quiet_called task
          have runs := sound.leads_called standing
          have shape : c.step (.turn task) = (c.called task).runJob task job :=
            turn_eq standing runs.sound.held
          have turned := (sound.of_sameBooks quiet.toSameBooks).traced_runJob
            (show Traced sofar (c.called task).registry.entries from traced) size task job
          rw [c.jobDeed_called, quiet.shifts] at turned
          rw [shape, deed_turn standing]
          exact turned
  | spawn job => exact traced
  | register x id timeout =>
      let enrolment : Enrolment := { exchange := x, id, timeout, assigned := none }
      change Traced (shifted sofar (c.shifts (.enrol enrolment))) _
      cases enrols : c.enrol x id timeout with
      | error panic =>
          rw [shifts_of_error (show c.enrol enrolment.exchange enrolment.id enrolment.timeout =
            .error panic from enrols)]
          simp only [step, enrols]
          exact traced
      | ok outcome =>
          obtain ⟨enrolled, ticket⟩ := outcome
          obtain ⟨entered, shape⟩ := sound.traced_enrol traced size
            (show c.enrol enrolment.exchange enrolment.id enrolment.timeout = .ok (enrolled, ticket)
              from enrols)
          rw [shape]
          simp only [step, enrols]
          exact entered
  | start =>
      rw [c.sameBooks_start.entries]
      exact traced
  | rekey source target => exact sound.traced_rekey traced source target
  | publish address => exact traced
  | elapse instant => exact traced

/-- A deed begins as many trails as it registers requests. -/
theorem length_shifted (c : Coordinator) (sofar : List Trail) (deed : Deed) :
    (shifted sofar (c.shifts deed)).length =
      sofar.length + (c.registers? deed).toList.length := by
  have rekeyed : ∀ (sofar : List Trail) source target,
      (shifted sofar (c.registry.rekeyShift? source target).toList).length = sofar.length := by
    intro sofar source target
    unfold Registry.rekeyShift?
    split
    · rfl
    · cases c.registry.find? source <;> simp [shifted, Shift.apply]
  cases deed with
  | enrol enrolment =>
      cases running : c.lifecycle.runAllowed with
      | false =>
          simp only [shifts, registers?, running, Bool.not_false, if_true, Bool.true_or]
          cases enrolment.assigned with
          | none => simp [shifted, Shift.apply]
          | some target =>
              have moved := rekeyed (sofar ++ [.start enrolment.id]) enrolment.id target
              rw [List.length_append] at moved
              exact moved
      | true =>
          cases fits : (c.now.after? enrolment.timeout).isSome with
          | false => simp [shifts, registers?, running, fits, shifted]
          | true =>
              simp only [shifts, registers?, running, fits, Bool.not_true, Bool.false_or,
                Bool.false_eq_true, if_false, if_true]
              cases enrolment.assigned.filter (· ≠ enrolment.id) <;> simp [shifted, Shift.apply]
  | rekey source target => exact rekeyed sofar source target
  | _ => rfl

/-! ## Runs -/

/-- The trails of a coordinator say where its requests are, one for each registration. -/
structure Tracked (c : Coordinator) (registered : List (Exchange × Duration))
    (trails : List Trail) : Prop where
  sound : c.Sound registered []
  size : trails.length = registered.length
  traced : Traced trails c.registry.entries

variable {choices : List Choice}

theorem tracked_create (config : CoordinatorConfig) (transport : Transport)
    (naming : Nat → String) : (create config transport naming).Tracked [] [] :=
  ⟨sound_create config transport naming, rfl, by simp [Traced, create, Registry.empty]⟩

theorem Tracked.run (tracked : c.Tracked registered sofar)
    (calls : ∀ choice ∈ choices, choice.isCall) :
    (c.run choices).Tracked (registered ++ c.registrations choices)
      (c.trailsAfter sofar choices) := by
  induction choices generalizing c registered sofar with
  | nil => simpa [registrations, Coordinator.run, trailsAfter] using tracked
  | cons choice rest ih =>
      have first := tracked.sound.leads_step (calls choice List.mem_cons_self)
      have size := c.length_shifted sofar (c.deed choice)
      rw [tracked.size, ← List.length_append] at size
      have later := ih ⟨first.sound, size, tracked.sound.traced_step tracked.traced tracked.size _⟩
        fun other member => calls other (List.mem_cons_of_mem _ member)
      rw [List.append_assoc] at later
      exact later

theorem registrations_append (c : Coordinator) (first second : List Choice) :
    c.registrations (first ++ second) =
      c.registrations first ++ (c.run first).registrations second := by
  induction first generalizing c with
  | nil => rfl
  | cons choice rest ih =>
      rw [List.cons_append, registrations, ih, ← List.append_assoc]
      rfl

/-- What a ticket was registered with does not change. -/
theorem registrations_of_take {ticket : Ticket} {n : Nat} {request again : Exchange × Duration}
    (known : (c.registrations choices)[ticket]? = some request)
    (early : (c.registrations (choices.take n))[ticket]? = some again) : again = request := by
  have split := c.registrations_append (choices.take n) (choices.drop n)
  rw [List.take_append_drop] at split
  rw [split, List.getElem?_append_left (List.getElem?_eq_some_iff.mp early).1, early,
    Option.some_inj] at known
  exact known

/-! ## What a requester gets -/

/-- A reply goes back under the id that its request was registered with first. -/
theorem restore_of_follows {entry : Pending} {trail : Trail} {reply : Message}
    (follows : entry.Follows trail) (known : reply.correlationId? = some entry.correlationId) :
    entry.restore reply = reply.withHeader Message.correlationHeader trail.first := by
  unfold Pending.restore
  rw [follows.first]
  by_cases still : trail.later = []
  · have here : reply.headers.find? Message.correlationHeader = some trail.first := by
      have same : entry.correlationId = trail.first := by
        rw [follows.key]
        simp [Trail.last, still]
      rw [same] at known
      exact (Option.filter_eq_some_iff.mp known).1
    rw [if_pos still, Message.withHeader, Dictionary.insert_of_find? here]
  · rw [if_neg still]

/-- The exchange of a request that was registered under `first`, once a reply to it has come: the
reply under that id is its outbound message, and all else about it stays; if faults are transferred,
a fault becomes its failure instead. -/
def resumption (config : CoordinatorConfig) (x : Exchange) (first : String) (reply : Message) :
    Exchange :=
  match if config.transferFaults then reply.header? Message.faultHeader else none with
  | some text => x.withFailure (.remote text)
  | none => { x with outbound := some (reply.withHeader Message.correlationHeader first) }

/-- The request of a ticket waits for its reply. -/
def Waits (c : Coordinator) (ticket : Ticket) : Prop :=
  ∃ entry ∈ c.registry.entries, entry.ticket = ticket

/-- What becomes of the ids of the requests in a run. -/
structure KeepsIds (c : Coordinator) (choices : List Choice) : Prop where
  /-- The registry keeps the ids of the trails. -/
  stands : (c.run choices).registry.Keeps (c.trails choices)
  /-- A reply that takes a request out carries the id it then stands under, and comes to the
  requester under the first. -/
  replied : ∀ n choice reply ticket request, choices[n]? = some choice →
    (c.before choices n).deed choice = .answer reply →
    (c.before choices n).Waits ticket → ¬ (c.before choices (n + 1)).Waits ticket →
    (c.registrations choices)[ticket]? = some request →
      ∃ trail, (c.trails (choices.take n))[ticket]? = some trail ∧
        reply.correlationId? = some trail.last ∧
        (c.before choices (n + 1)).verdict? ticket = some (.resumed
          (resumption (c.before choices n).config request.1 trail.first reply) false)
  /-- A sweep that takes a request out times it out under the first id. -/
  swept : ∀ n choice ticket request, choices[n]? = some choice →
    (c.before choices n).deed choice = .sweep →
    (c.before choices n).Waits ticket → ¬ (c.before choices (n + 1)).Waits ticket →
    (c.registrations choices)[ticket]? = some request →
      ∃ trail, (c.trails (choices.take n))[ticket]? = some trail ∧
        (c.before choices (n + 1)).verdict? ticket = some (.resumed
          (request.1.withFailure (.timeout trail.first request.2)) false)

/-- **A request that an event takes out** gets its verdict by one of the endings of the deed. -/
theorem Sound.taken (sound : c.Sound registered []) {choice : Choice}
    (call : choice.isCall) {ticket : Ticket} (waits : c.Waits ticket)
    (gone : ¬ (c.step choice).Waits ticket) :
    ∃ request ending, registered[ticket]? = some request ∧ c.Ends (c.deed choice) ticket ending ∧
      (c.step choice).verdict? ticket = some (ending.verdict request) := by
  obtain ⟨entry, inside, rfl⟩ := waits
  have leads := sound.leads_step call
  obtain ⟨known, fresh⟩ := sound.agrees (List.mem_append_right [] inside)
  have given := (List.getElem?_eq_some_iff.mp known).1
  cases shown : (c.step choice).verdict? entry.ticket with
  | none =>
      obtain ⟨other, there, same⟩ := leads.sound.exists_entry
        (Nat.lt_of_lt_of_le given (by simp)) shown
      exact absurd ⟨other, there, same⟩ gone
  | some verdict =>
      have pending : c.verdict? entry.ticket = none := by
        rw [verdict?, fresh]
        rfl
      obtain ⟨request, ending, listed, cause, same⟩ :=
        leads.explained entry.ticket verdict pending shown
      rw [List.getElem?_append_left given] at listed
      exact ⟨request, ending, listed, cause, by rw [same]⟩

theorem keepsIds (config : CoordinatorConfig) (transport : Transport) (naming : Nat → String)
    (calls : ∀ choice ∈ choices, choice.isCall) :
    (create config transport naming).KeepsIds choices := by
  have start := tracked_create config transport naming
  generalize create config transport naming = c at start
  have final := start.run calls
  refine ⟨⟨fun id entry => final.sound.keys.find?_eq_some_iff, final.traced⟩, ?_, ?_⟩
  · intro n choice reply ticket request there deed waits gone known
    have here := start.run (calls_take calls n)
    change (c.before choices n).Tracked _ (c.trails (choices.take n)) at here
    rw [List.nil_append] at here
    rw [before_succ there] at gone ⊢
    obtain ⟨again, ending, listed, cause, shown⟩ :=
      here.sound.taken (calls choice (List.mem_of_getElem? there)) waits gone
    obtain rfl := registrations_of_take known listed
    rw [deed] at cause
    rw [shown]
    cases cause with
    | replied carried found clean =>
        obtain ⟨trail, known, follows⟩ := here.traced _ (Registry.mem_of_find? found)
        have under := Registry.correlationId_of_find? found
        rw [← under] at carried
        refine ⟨trail, known, follows.key ▸ carried, ?_⟩
        rw [restore_of_follows follows carried]
        unfold resumption
        cases transfer : (c.before choices n).config.transferFaults with
        | false => rfl
        | true =>
            rw [clean transfer]
            rfl
    | faulted carried found transfer fault =>
        obtain ⟨trail, known, follows⟩ := here.traced _ (Registry.mem_of_find? found)
        have under := Registry.correlationId_of_find? found
        rw [← under] at carried
        refine ⟨trail, known, follows.key ▸ carried, ?_⟩
        simp only [resumption, transfer, if_true, fault]
        rfl
  · intro n choice ticket request there deed waits gone known
    have here := start.run (calls_take calls n)
    change (c.before choices n).Tracked _ (c.trails (choices.take n)) at here
    rw [List.nil_append] at here
    rw [before_succ there] at gone ⊢
    obtain ⟨again, ending, listed, cause, shown⟩ :=
      here.sound.taken (calls choice (List.mem_of_getElem? there)) waits gone
    obtain rfl := registrations_of_take known listed
    rw [deed] at cause
    rw [shown]
    cases cause with
    | timedOut inside late =>
        obtain ⟨trail, known, follows⟩ := here.traced _ inside
        refine ⟨trail, known, ?_⟩
        rw [follows.getD_firstId]
        rfl

/-- **Correlation ids survive every move.** Whatever callers begin, in whatever order tasks take
their turns, requests are moved and time passes: a reply has to carry the id its request stands
under when it comes, and its requester gets it under the id that was registered first; so does the
requester of a request that times out. And whatever operations a registry sees, the keys of its
requests are the ids stored with them, and first ids are kept of those that have moved. -/
theorem ids_survive (config : CoordinatorConfig) (transport : Transport) (naming : Nat → String)
    (choices : List Choice) (calls : ∀ choice ∈ choices, choice.isCall) :
    (create config transport naming).KeepsIds choices ∧
      ∀ operations : List Registry.Operation,
        (Ledger.empty.run operations).registry.Keeps (Ledger.empty.trailsAfter [] operations) ∧
          Table.run [] Ledger.empty operations =
            (Ledger.empty.run operations).registry.entries.map fun entry =>
              (entry.correlationId, entry) := by
  refine ⟨keepsIds config transport naming calls, fun operations => ⟨?_, ?_⟩⟩
  · exact Ledger.keeps_run operations
  · exact Table.run_empty operations

/-- The reply to a request that came under "p". -/
def replyToP : Message := Message.empty.withHeader Message.correlationHeader "p"

/-- A request is sent under "p" and moved to "q" and back, and then its reply comes. -/
def movedBack : List Choice :=
  [.start, .register default "p" (Duration.ofSeconds 1), .rekey "p" "q", .rekey "q" "p",
   .spawn (.reply replyToP), .turn 3]

/-- The requester gets the reply under "p". -/
theorem ids_survive_movedBack :
    (∀ choice ∈ movedBack, choice.isCall) ∧
      ((create default default fun _ => "").before movedBack 6).verdict? 0 =
        some (.resumed (resumption default default "p" replyToP) false) := by
  have calls : ∀ choice ∈ movedBack, choice.isCall := by decide
  have keeps := (ids_survive default default (fun _ => "") movedBack calls).1
  have waits : ((create default default fun _ => "").before movedBack 5).Waits 0 :=
    ⟨_, List.mem_cons_self, rfl⟩
  have gone : ¬ ((create default default fun _ => "").before movedBack 6).Waits 0 := by
    rintro ⟨entry, inside, _⟩
    exact absurd inside List.not_mem_nil
  obtain ⟨trail, known, _, verdict⟩ := keeps.replied 5 (.turn 3) replyToP 0
    (default, Duration.ofSeconds 1) rfl rfl waits gone rfl
  have trails : ((create default default fun _ => "").trails (movedBack.take 5))[0]? =
      some ⟨"p", ["q", "p"]⟩ := rfl
  rw [trails, Option.some_inj] at known
  subst known
  exact ⟨calls, verdict⟩

end Mediation.Coordinator
