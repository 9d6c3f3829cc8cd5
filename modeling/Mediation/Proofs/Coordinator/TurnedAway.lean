import Mediation.Proofs.Coordinator.Handbacks

/-!
# Requests that are turned away

A request is registered once its transport has accepted it. Until then its turns leave the registry
alone. They also do so if the request ends unregistered because the reply address did not become
known in time, or because the transport has refused it.

The third case is that the coordinator has stopped running by the time the request is accepted
(`TurnsAway.rejected`). The request is not registered then, but its turn goes on as if it were: if
the transport has assigned an id, whoever is registered under the id that the request was sent under
moves to the assigned one (`Reassigns`). That is another request, if there is one, since two
requests may be sent under one id. Nothing else ever changes (`TurnedAway`).

`unregistered_requests` says so of every turn, whatever state the coordinator is in.
-/

set_option autoImplicit false

namespace Mediation

/-- The halves of a suspension that has ended with an exchange, which is still to be collected. -/
def Handoff.resumed (x : Exchange) (synchronous : Bool) : Handoff :=
  { armed := false, awaited := true, verdict := some (.resumed x synchronous) }

theorem Job.Asks.isStop {x : Exchange} {limit : Duration} {job : Job} (asks : job.Asks x limit) :
    job.isStop = false := by
  cases asks <;> rfl

namespace Coordinator

variable {c : Coordinator} {task : TaskId} {job : Job} {x : Exchange} {limit : Duration}
  {ticket : Ticket} {id source target : String} {failure : Failure} {assigned : Option String}

/-! ## Why a request is not registered -/

/-- A request is handed back, with a failure, by the turn that it has now. -/
inductive TurnsAway (c : Coordinator) : Job → Failure → Prop
  /-- The reply address did not become known in time. -/
  | unaddressed {x : Exchange} {limit : Duration} {waiting : Option Instant} {deadline : Instant}
      (unknown : c.replyAddress = none) (patience : c.addressDeadline? waiting = some deadline)
      (come : deadline ≤ c.now) : TurnsAway c (.request x limit waiting) c.unaddressed
  /-- The transport refuses it. -/
  | unsent {job : Job} {failure : Failure} (refused : c.answer? job = some (.error failure)) :
      TurnsAway c job failure
  /-- The transport accepts it, and the coordinator does not run. -/
  | rejected {job : Job} {assigned : Option String}
      (accepted : c.answer? job = some (.ok assigned))
      (closed : c.lifecycle.runAllowed = false) : TurnsAway c job c.rejection

/-- A request is registered by the turn that it has now. -/
structure TakesIn (c : Coordinator) (job : Job) (limit : Duration) : Prop where
  accepted : ∃ assigned, c.answer? job = some (.ok assigned)
  running : c.lifecycle.runAllowed = true
  fits : (c.now.after? limit).isSome = true

/-- The id that a request is sent under. -/
def sentUnder? (c : Coordinator) : Job → Option String
  | .request x _ _ => some (c.provisionalId x).2
  | .sent _ id _ _ => some id
  | _ => none

/-- The transport accepts a request that is sent under one id, and assigns another one. -/
structure Reassigns (c : Coordinator) (job : Job) (source target : String) : Prop where
  sent : c.sentUnder? job = some source
  accepted : c.answer? job = some (.ok (some target))
  different : target ≠ source

/-- From `c` to `d` a task has handed its exchange back with a failure. -/
structure TurnedAway (c : Coordinator) (task : TaskId) (job : Job) (x : Exchange)
    (failure : Failure) (d : Coordinator) : Prop where
  returned : d.reports task = .returned (x.withFailure failure) :: c.reports task
  gone : d.job? task = none
  /-- Unless the transport reassigns the id of another request, the registry is as it was. -/
  spared : (∀ source target, c.Reassigns job source target → c.registry.contains source = false) →
    d.registry = c.registry
  /-- If it does, that request has moved. -/
  moved : ∀ source target entry, c.Reassigns job source target →
    c.registry.find? source = some entry →
      d.registry = ((c.registry.without source).place (entry.moveTo target)).registry ∧
        d.registry.contains source = false

/-! ## The turn of a request -/

theorem sentUnder?_called (c : Coordinator) (task : TaskId) (job : Job) :
    (c.called task).sentUnder? job = c.sentUnder? job := by
  cases job with
  | request x limit waiting =>
      simp only [sentUnder?, provisionalId]
      cases x.inbound.correlationId? <;> rfl
  | _ => rfl

theorem reassigns_called :
    (c.called task).Reassigns job source target ↔ c.Reassigns job source target := by
  constructor
  · rintro ⟨sent, accepted, different⟩
    rw [sentUnder?_called] at sent
    rw [answer?_called] at accepted
    exact ⟨sent, accepted, different⟩
  · rintro ⟨sent, accepted, different⟩
    rw [← c.sentUnder?_called task] at sent
    rw [← c.answer?_called task] at accepted
    exact ⟨sent, accepted, different⟩

theorem turnsAway_called : (c.called task).TurnsAway job failure ↔ c.TurnsAway job failure := by
  constructor
  · intro away
    cases away with
    | unaddressed unknown patience come => exact .unaddressed (c := c) unknown patience come
    | unsent refused => exact .unsent ((c.answer?_called task job).symm.trans refused)
    | rejected accepted closed =>
        exact .rejected (c := c) ((c.answer?_called task job).symm.trans accepted) closed
  · intro away
    cases away with
    | unaddressed unknown patience come =>
        exact .unaddressed (c := c.called task) unknown patience come
    | unsent refused => exact .unsent ((c.answer?_called task job).trans refused)
    | rejected accepted closed =>
        exact .rejected (c := c.called task) ((c.answer?_called task job).trans accepted) closed

theorem takesIn_called (takesIn : (c.called task).TakesIn job limit) : c.TakesIn job limit := by
  obtain ⟨⟨assigned, accepted⟩, running, fits⟩ := takesIn
  exact ⟨⟨assigned, (c.answer?_called task job).symm.trans accepted⟩, running, fits⟩

/-- A coordinator that has not gone with a turn has done no more than the turn. -/
theorem letGo_eq_of_dissolved (remains : c.letGo.dissolved = c.dissolved) : c.letGo = c := by
  unfold letGo at remains ⊢
  split
  · rfl
  · next unheld =>
      rw [if_neg unheld] at remains
      let emptied := { c with dissolved := true, registry := { c.registry with entries := [] } }
      have gone : ((c.registry.entries.map (·.ticket)).foldl supersede emptied).dissolved = true :=
        (tends_foldl tends_supersede _ emptied).dissolved
      have before : c.dissolved = true := remains.symm.trans gone
      simp [before] at unheld

theorem turn_eq_of_dissolved (standing : c.job? task = some job) (asks : job.Asks x limit)
    (remains : (c.turn task).dissolved = c.dissolved) :
    c.turn task = (c.called task).runJob task job := by
  have still : ((c.called task).runJob task job).dissolved = c.dissolved :=
    ((c.called task).acts_runJob task asks.isStop).beside.dissolved
  rw [turn_eq_letGo standing] at remains ⊢
  exact letGo_eq_of_dissolved (remains.trans still.symm)

/-- The transport has not answered a request that still looks for the reply address. -/
theorem request_of_unanswered (asks : job.Asks x limit) (silent : c.answer? job = none) :
    c.replyAddress = none ∧ ∃ waiting, job = .request x limit waiting := by
  cases asks with
  | address waiting => exact ⟨Option.map_eq_none_iff.mp silent, waiting, rfl⟩
  | answer id answer => simp [answer?] at silent

/-- A request goes on with the answer of its transport. -/
theorem runJob_answered (asks : job.Asks x limit) {answer : Except Failure (Option String)}
    (answered : c.answer? job = some answer) (task : TaskId) :
    ∃ sent id, Tends c sent ∧ Quiet c sent ∧ sent.registry = c.registry ∧
      c.sentUnder? job = some id ∧ c.runJob task job = sent.settleSend task x id limit answer := by
  cases asks with
  | answer id given =>
      obtain rfl := Option.some.inj answered
      exact ⟨c, id, .refl c, .refl c, rfl, rfl, rfl⟩
  | address waiting =>
      obtain ⟨address, known, rfl⟩ := Option.map_eq_some_iff.mp answered
      obtain ⟨sent, tends, quiet, kept, sends⟩ := c.sendRequest_tends task x limit address
      refine ⟨sent, _, tends, quiet, kept, rfl, ?_⟩
      simp only [runJob, seekAddress, known]
      exact sends

/-! ## Being turned away -/

/-- Who registers later does not change a verdict that is there. -/
theorem adopt_settled {handoff : Handoff} (known : c.handoffs[ticket]? = some handoff)
    (settled : handoff.armed = false) (placement : Registry.Placement) :
    (c.adopt placement).handoffs[ticket]? = some handoff := by
  have unchanged : handoff.supersede = handoff := by simp [Handoff.supersede, settled]
  cases displaced : placement.displaced with
  | none =>
      simp only [adopt, displaced]
      exact known
  | some entry =>
      simp only [adopt, displaced]
      change (c.handoffs.modify entry.ticket Handoff.supersede)[ticket]? = some handoff
      rw [List.getElem?_modify, known]
      split
      · exact congrArg some unchanged
      · rfl

/-- A verdict that is there is collected. -/
theorem collect_resumed {synchronous : Bool}
    (known : c.handoffs[ticket]? = some (.resumed x synchronous)) (task : TaskId) :
    ∃ looked : Coordinator, looked.ended = c.ended ∧ looked.registry = c.registry ∧
      c.collect task ticket = looked.finish task (.returned x) := by
  let collected := (Handoff.resumed x synchronous).abandon
  have looks : (c.handoffs.getD ticket Handoff.fresh).look =
      (collected, .collected (.resumed x synchronous)) := by
    rw [List.getD_eq_getElem?_getD, known]
    rfl
  refine ⟨{ c with handoffs := c.handoffs.set ticket collected }, rfl, rfl, ?_⟩
  simp only [collect, looks]

/-- The registry after a transport has accepted a request that is not in it. -/
def reassigned (registry : Registry) (source : String) (assigned : Option String) : Registry :=
  match assigned.filter fun id => id ≠ source with
  | some target => (registry.rekey source target).1.registry
  | none => registry

/-- A coordinator that does not run refuses a request, and hands it back at once. -/
theorem enrol_closed (closed : c.lifecycle.runAllowed = false) (x : Exchange) (id : String)
    (limit : Duration) :
    ∃ rejected : Coordinator, c.enrol x id limit = .ok (rejected, c.handoffs.length) ∧
      rejected.ended = c.ended ∧ rejected.registry = c.registry ∧
      rejected.handoffs[c.handoffs.length]? =
        some (.resumed (x.withFailure c.rejection) true) := by
  refine ⟨c.opened.complete c.handoffs.length (x.withFailure c.rejection) true, ?_, rfl, rfl, ?_⟩
  · rcases c.enrol_cases x id limit with ⟨_, refused⟩ | ⟨running, _⟩ | ⟨_, running, _⟩
    · exact refused
    · simp [closed] at running
    · simp [closed] at running
  · change ((c.handoffs ++ [Handoff.fresh]).modify c.handoffs.length _)[c.handoffs.length]? = _
    rw [List.getElem?_modify, List.getElem?_append_right (Nat.le_refl _), Nat.sub_self]
    simp [Handoff.complete, Handoff.fresh, Handoff.resumed]

/-- A request is accepted while the coordinator does not run. -/
theorem settleSend_rejected (closed : c.lifecycle.runAllowed = false) (task : TaskId)
    (x : Exchange) (id : String) (limit : Duration) (assigned : Option String) :
    ∃ told : Coordinator, told.ended = c.ended ∧
      told.registry = reassigned c.registry id assigned ∧
      c.settleSend task x id limit (.ok assigned) =
        told.finish task (.returned (x.withFailure c.rejection)) := by
  obtain ⟨rejected, enrols, silent, same, known⟩ := enrol_closed closed x id limit
  rw [← same, ← silent]
  simp only [settleSend, enrols, reassigned]
  cases assigned.filter fun other => other ≠ id with
  | none => exact collect_resumed known task
  | some target =>
      have kept := adopt_settled known rfl (rejected.registry.rekey id target).1
      obtain ⟨told, ended, registry, collects⟩ := collect_resumed kept task
      refine ⟨told, ended.trans (rejected.tends_rekey id target).ended, registry.trans ?_, collects⟩
      exact rejected.rekey_registry id target

/-- A request that is not there is not reassigned. -/
theorem reassigned_eq_self {registry : Registry}
    (spares : ∀ target, assigned = some target → target ≠ id → registry.contains id = false) :
    reassigned registry id assigned = registry := by
  cases names : assigned.filter fun other => other ≠ id with
  | none => simp only [reassigned, names]
  | some target =>
      simp only [reassigned, names]
      obtain ⟨given, different⟩ := Option.filter_eq_some_iff.mp names
      have missing := Registry.contains_eq_false_iff.mp
        (spares target given (of_decide_eq_true different))
      simp [Registry.rekey, missing]

theorem reassigned_eq_place {registry : Registry} {entry : Pending} (different : target ≠ id)
    (found : registry.find? id = some entry) :
    reassigned registry id (some target) =
      ((registry.without id).place (entry.moveTo target)).registry := by
  have names : (some target).filter (fun other => other ≠ id) = some target :=
    Option.filter_eq_some_iff.mpr ⟨rfl, decide_eq_true different⟩
  simp only [reassigned, names, Registry.rekey, found, if_neg different.symm]

/-- A request that has moved is not where it was. -/
theorem contains_place_moveTo {registry : Registry} {entry : Pending} (different : target ≠ id) :
    ((registry.without id).place (entry.moveTo target)).registry.contains id = false := by
  rw [← Bool.not_eq_true, Registry.contains_iff]
  rintro ⟨other, inside, under⟩
  rw [Registry.place_entries] at inside
  rcases List.mem_append.mp inside with kept | new
  · exact (Registry.mem_without.mp (Registry.mem_without.mp kept).1).2 under
  · rw [List.mem_singleton.mp new] at under
    exact different under

/-- A request ends where nobody's id is reassigned. -/
theorem TurnedAway.finish {told : Coordinator} (ended : told.ended = c.ended)
    (kept : told.registry = c.registry)
    (nobody : ∀ source target, ¬ c.Reassigns job source target) :
    c.TurnedAway task job x failure (told.finish task (.returned (x.withFailure failure))) where
  returned := by rw [reports_finish, if_pos rfl, reports, ended, reports]
  gone := told.job?_finish task _
  spared _ := kept
  moved source target _ reassigns _ := absurd reassigns (nobody source target)

/-- **A turn that turns a request away.** -/
theorem runJob_turnedAway (asks : job.Asks x limit) (away : c.TurnsAway job failure)
    (task : TaskId) : c.TurnedAway task job x failure (c.runJob task job) := by
  cases away with
  | @unaddressed y span waiting deadline unknown patience come =>
      cases asks with
      | address =>
          have ends : c.runJob task (.request x limit waiting) =
              c.finish task (.returned (x.withFailure c.unaddressed)) := by
            simp [runJob, seekAddress, unknown, patience, come]
          rw [ends]
          refine .finish rfl rfl fun source target reassigns => ?_
          have accepted := reassigns.accepted
          simp [answer?, unknown] at accepted
  | unsent refused =>
      obtain ⟨sent, id, tends, _, kept, _, runs⟩ := runJob_answered asks refused task
      rw [runs]
      refine .finish tends.ended kept fun source target reassigns => ?_
      have accepted := reassigns.accepted
      rw [refused] at accepted
      simp at accepted
  | @rejected _ assigned accepted closed =>
      obtain ⟨sent, id, tends, _, kept, under, runs⟩ := runJob_answered asks accepted task
      have shut : sent.lifecycle.runAllowed = false := by rwa [tends.lifecycle]
      obtain ⟨told, ended, registry, settles⟩ :=
        settleSend_rejected shut task x id limit assigned
      have reason : sent.rejection = c.rejection := by rw [rejection, tends.lifecycle, rejection]
      rw [runs, settles, reason]
      rw [kept] at registry
      refine ⟨?_, told.job?_finish task _, fun spares => ?_,
        fun source target entry moves found => ?_⟩
      · rw [reports_finish, if_pos rfl, reports, ended, tends.ended, reports]
      · refine registry.trans (reassigned_eq_self fun target given different => ?_)
        exact spares id target ⟨under, given ▸ accepted, different⟩
      · obtain ⟨sentUnder, assigns, different⟩ := moves
        obtain rfl := Option.some.inj (under.symm.trans sentUnder)
        obtain rfl : assigned = some target := by simpa [accepted] using assigns
        have place := registry.trans (reassigned_eq_place different found)
        exact ⟨place, (congrArg (·.contains id) place).trans (contains_place_moveTo different)⟩

/-- A turn that hands a request back which it does not register turns it away. -/
theorem exists_turnsAway {y : Exchange} (asks : job.Asks x limit)
    (returned : (c.runJob task job).reports task = .returned y :: c.reports task)
    (unregistered : ¬ c.TakesIn job limit) : ∃ failure, c.TurnsAway job failure := by
  -- A report of a panic is no exchange.
  have panics : ∀ told : Coordinator,
      c.runJob task job ≠ told.finish task (.panicked beyondClock) := by
    intro told ends
    rw [ends, reports_finish, if_pos rfl] at returned
    simp at returned
  cases answered : c.answer? job with
  | none =>
      obtain ⟨unknown, waiting, rfl⟩ := request_of_unanswered asks answered
      cases patience : c.addressDeadline? waiting with
      | none =>
          refine absurd ?_ (panics c)
          simp [runJob, seekAddress, unknown, patience]
      | some deadline =>
          by_cases come : deadline ≤ c.now
          · exact ⟨_, .unaddressed unknown patience come⟩
          · have parks : c.runJob task (.request x limit waiting) =
                c.park task (.request x limit (some deadline)) := by
              simp [runJob, seekAddress, unknown, patience, come]
            rw [parks] at returned
            exact absurd returned.symm (List.cons_ne_self _ _)
  | some answer =>
      cases answer with
      | error failure => exact ⟨failure, .unsent answered⟩
      | ok assigned =>
          cases running : c.lifecycle.runAllowed with
          | false => exact ⟨_, .rejected answered running⟩
          | true =>
              obtain ⟨sent, id, tends, _, _, _, runs⟩ := runJob_answered asks answered task
              refine absurd (runs.trans ?_) (panics sent)
              have unfit : sent.now.after? limit = none := by
                rw [tends.now]
                by_contra fits
                have fits := Option.isSome_iff_ne_none.mpr fits
                exact unregistered ⟨⟨assigned, answered⟩, running, fits⟩
              rcases sent.enrol_cases x id limit with
                ⟨closed, _⟩ | ⟨_, _, panicking⟩ | ⟨_, _, registers, _⟩
              · rw [tends.lifecycle, running] at closed
                simp at closed
              · simp only [settleSend, panicking]
              · obtain ⟨deadline, fits, _⟩ := Registry.register?_eq_some registers
                simp [unfit] at fits

/-- From `c` to `d` a request has had a turn, before which it was not registered. -/
structure Unregistered (c : Coordinator) (task : TaskId) (job : Job) (x : Exchange)
    (limit : Duration) (d : Coordinator) : Prop where
  /-- While it looks for the reply address, the registry stays as it is. -/
  looks : c.answer? job = none → d.registry = c.registry
  /-- If the turn hands it back without having registered it, it comes with a failure, and
  otherwise as it was. -/
  returned : ∀ y, d.reports task = .returned y :: c.reports task → ¬ c.TakesIn job limit →
    ∃ failure, c.TurnsAway job failure ∧ y = x.withFailure failure
  turnedAway : ∀ failure, c.TurnsAway job failure → c.TurnedAway task job x failure d

/-- **A request that is not registered leaves the registry alone**, but for one case. Whatever state
the coordinator is in, a turn that hands the exchange of a request back without having registered it
has changed its failure and nothing else, and the registry is as it was. The exception is a request
that is turned away because the coordinator does not run. If it was sent under the id of another
one, and its transport has assigned an id to it, the other one has moved there. -/
theorem unregistered_requests (c : Coordinator) (task : TaskId) (job : Job) (x : Exchange)
    (limit : Duration) (standing : c.job? task = some job) (asks : job.Asks x limit) :
    ∃ served, c.turn task = served.letGo ∧
      ((c.turn task).dissolved = c.dissolved → c.turn task = served) ∧
      c.Unregistered task job x limit served := by
  refine ⟨(c.called task).runJob task job, turn_eq_letGo standing,
    turn_eq_of_dissolved standing asks, fun silent => ?_, fun y returned unregistered => ?_,
    fun failure turnsAway => ?_⟩
  · obtain ⟨unknown, waiting, rfl⟩ := request_of_unanswered asks silent
    have missing : (c.called task).replyAddress = none := unknown
    simp only [runJob, seekAddress, missing]
    split
    · rfl
    · split <;> rfl
  · obtain ⟨failure, turnsAway⟩ :=
      exists_turnsAway asks returned fun takesIn => unregistered (takesIn_called takesIn)
    have reported := (runJob_turnedAway asks turnsAway task).returned
    rw [returned, List.cons.injEq, Report.returned.injEq] at reported
    exact ⟨failure, turnsAway_called.mp turnsAway, reported.1⟩
  · obtain ⟨returned, gone, spared, moved⟩ :=
      runJob_turnedAway asks (turnsAway_called.mpr turnsAway) task
    refine ⟨returned, gone, fun spares => ?_, fun source target entry reassigns found => ?_⟩
    · exact spared fun source target reassigns =>
        spares source target (reassigns_called.mp reassigns)
    · exact moved source target entry (reassigns_called.mpr reassigns) found

/-- A request that brings the correlation id "z". -/
def comesAsZ : Exchange :=
  Exchange.receive "late"
    ((Message.ofBody (.text "Hello")).withHeader Message.correlationHeader "z")

/-- The transport assigns an id to the first request that it is given. -/
def assignsOnce : Coordinator :=
  create default (Transport.ofLine (.scripted [.ok (some "a")])) fun _ => ""

/-- While a stop waits for the sweeper to end, a request comes under the id of one that is
registered. -/
def lateTwin : List Choice :=
  [.start, .turn 0, .register default "z" (Duration.ofSeconds 1), .spawn .stop, .turn 3,
   .spawn (RequestReply.job default none comesAsZ)]

/-- The late one is turned away, and the registered one is no longer under "z". -/
theorem unregistered_requests_lateTwin :
    (assignsOnce.run lateTwin).job? 4 = some (RequestReply.job default none comesAsZ) ∧
      (assignsOnce.run lateTwin).registry.contains "z" = true ∧
      ((assignsOnce.run lateTwin).turn 4).reports 4 =
        [.returned (comesAsZ.withFailure (assignsOnce.run lateTwin).rejection)] ∧
      ((assignsOnce.run lateTwin).turn 4).registry.contains "z" = false := by
  have standing : (assignsOnce.run lateTwin).job? 4 =
      some (RequestReply.job default none comesAsZ) := rfl
  obtain ⟨served, _, remains, _, _, turnedAway⟩ :=
    unregistered_requests (assignsOnce.run lateTwin) 4 _ comesAsZ _ standing (.address none)
  obtain ⟨entry, found⟩ : ∃ entry, (assignsOnce.run lateTwin).registry.find? "z" = some entry :=
    ⟨_, rfl⟩
  have accepted : (assignsOnce.run lateTwin).answer? (RequestReply.job default none comesAsZ) =
      some (.ok (some "a")) := rfl
  have away : (assignsOnce.run lateTwin).TurnsAway (RequestReply.job default none comesAsZ)
      (assignsOnce.run lateTwin).rejection := .rejected accepted rfl
  have reassigns : (assignsOnce.run lateTwin).Reassigns (RequestReply.job default none comesAsZ)
      "z" "a" := ⟨rfl, accepted, by decide⟩
  obtain ⟨returned, _, _, moved⟩ := turnedAway _ away
  rw [remains rfl]
  exact ⟨standing, rfl, returned, (moved "z" "a" entry reassigns found).2⟩

end Coordinator

end Mediation
