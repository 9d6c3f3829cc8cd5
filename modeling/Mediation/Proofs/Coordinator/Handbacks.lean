import Mediation.Proofs.Coordinator.Timeouts
import Mediation.Proofs.Coordinator.Undisturbed
import Mediation.RequestReply

/-!
# A request/reply step hands its exchange back

Whatever else happens, the task of a request/reply step is in one of these situations (`Stands`). It
can run. It waits for the reply address, with a timer set. It waits for its verdict, with its
exchange in the registry. Or it has ended, with one report, from which the step makes the exchange
that it hands back: a reply has changed the outbound message of the exchange that it was given,
everything else the failure, and nothing else is changed (`Handback.Gives`).

There is one way to lose the exchange (`OffTheClock`). The clock may not be able to hold the
deadline of the request, or the end of its wait for the reply address. Then the task panics.

`steps_hand_back` follows the task through a run. Its own turns take it on (`Follows.turn`), and
other events leave it where it is (`Progress.lets`).
-/

set_option autoImplicit false

namespace Mediation

/-! ## What is handed back -/

/-- What a request/reply step hands its exchange back with. -/
inductive Handback
  | reply (message : Message)
  | failure (failure : Failure)

/-- From `x` to `y` a reply has changed the outbound message and a failure the failure slot, and the
rest is as it was. -/
structure Handback.Gives (handback : Handback) (x y : Exchange) : Prop where
  id : y.id = x.id
  inbound : y.inbound = x.inbound
  transacted : y.transacted = x.transacted
  redelivery : y.redelivery = x.redelivery
  properties : y.properties = x.properties
  outbound : y.outbound = match handback with
    | .reply message => some message
    | .failure _ => x.outbound
  failure : y.failure = match handback with
    | .reply _ => x.failure
    | .failure cause => some cause

theorem Handback.gives_failure (x : Exchange) (failure : Failure) :
    (Handback.failure failure).Gives x (x.withFailure failure) :=
  ⟨rfl, rfl, rfl, rfl, rfl, rfl, rfl⟩

/-- What an ending means for the requester. -/
def Ending.handback (limit : Duration) : Ending → Handback
  | reply message => .reply message
  | fault text => .failure (.remote text)
  | timeout id => .failure (.timeout id limit)
  | shutdown reason _ => .failure (.shutdown reason)
  | superseded => .failure .superseded

/-- How a task reports that it has collected a verdict. -/
def Verdict.report : Verdict → Report
  | resumed x _ => .returned x
  | superseded => .failed .superseded

/-- Whether a report brings an exchange or a failure back. -/
def Report.isAnswer : Report → Bool
  | .returned _ | .failed _ => true
  | _ => false

theorem Verdict.isAnswer_report (verdict : Verdict) : verdict.report.isAnswer = true := by
  cases verdict <;> rfl

/-- The step hands back what the ending means. -/
theorem Ending.gives (ending : Ending) (x : Exchange) (limit : Duration) :
    (ending.handback limit).Gives x
      (RequestReply.conclude x (ending.verdict (x, limit)).report) := by
  cases ending with
  | reply message => exact ⟨rfl, rfl, rfl, rfl, rfl, rfl, rfl⟩
  | fault text => exact Handback.gives_failure x _
  | timeout id => exact Handback.gives_failure x _
  | shutdown reason synchronous => exact Handback.gives_failure x _
  | superseded => exact Handback.gives_failure x _

/-- Where a request stands that is not registered yet. -/
inductive Job.Asks (x : Exchange) (limit : Duration) : Job → Prop
  /-- It needs the reply address. -/
  | address (waiting : Option Instant) : Asks x limit (.request x limit waiting)
  /-- Its transport has answered. -/
  | answer (id : String) (answer : Except Failure (Option String)) :
      Asks x limit (.sent x id limit answer)

theorem Job.Asks.lasting {x : Exchange} {limit : Duration} {job : Job} (asks : job.Asks x limit) :
    job.isErrand = false := by
  cases asks <;> rfl

/-- Where the task of a request/reply step begins. -/
inductive RequestReply.Begins (config : CoordinatorConfig) (timeout : Option Duration)
    (x : Exchange) : Job → Prop
  | needsAddress : Begins config timeout x (RequestReply.job config timeout x)
  /-- The transport has taken its time to answer. -/
  | answered (id : String) (answer : Except Failure (Option String)) :
      Begins config timeout x (.sent x id (timeout.getD config.defaultRequestTimeout) answer)

theorem RequestReply.Begins.asks {config : CoordinatorConfig} {timeout : Option Duration}
    {x : Exchange} {job : Job} (begins : RequestReply.Begins config timeout x job) :
    job.Asks x (timeout.getD config.defaultRequestTimeout) := by
  cases begins with
  | needsAddress => exact .address none
  | answered id answer => exact .answer id answer

namespace Coordinator

variable {c d : Coordinator} {task : TaskId} {job : Job} {x : Exchange} {limit : Duration}
  {ticket : Ticket} {verdict : Verdict} {report : Report}
  {handback : Handback} {books : List (Exchange × Duration)} {choices : List Choice}
  {choice : Choice} {n m : Nat}

/-! ## Collecting -/

theorem collect_cases (c : Coordinator) (task : TaskId) (awaited : c.awaited? ticket = some true) :
    c.verdict? ticket = none ∧ c.collect task ticket = c.park task (.suspended ticket) ∨
      ∃ verdict after, c.verdict? ticket = some verdict ∧
        (c.handoffs.getD ticket Handoff.fresh).look = (after, .collected verdict) ∧
        c.collect task ticket =
          { c with handoffs := c.handoffs.set ticket after }.finish task verdict.report := by
  obtain ⟨handoff, known, waits⟩ := Option.map_eq_some_iff.mp awaited
  have found : c.handoffs.getD ticket Handoff.fresh = handoff := by
    simp [List.getD_eq_getElem?_getD, known]
  have shown : c.verdict? ticket = handoff.verdict := by simp [verdict?, known]
  cases settled : handoff.verdict with
  | none =>
      have looks : (c.handoffs.getD ticket Handoff.fresh).look = (handoff, .pending) := by
        rw [found]
        simp [Handoff.look, waits, settled]
      refine .inl ⟨shown.trans settled, ?_⟩
      simp only [collect, looks]
  | some verdict =>
      have looks : (c.handoffs.getD ticket Handoff.fresh).look =
          ({ handoff with awaited := false }, .collected verdict) := by
        rw [found]
        simp [Handoff.look, waits, settled]
      refine .inr ⟨verdict, _, shown.trans settled, looks, ?_⟩
      cases verdict <;>
        · simp only [collect, looks]
          rfl

/-! ## Requests that are not registered yet -/

/-- What the transport answers in the turn of a request that is not registered yet. -/
def answer? (c : Coordinator) : Job → Option (Except Failure (Option String))
  | .request x _ _ => c.replyAddress.map (c.sendAnswer x)
  | .sent _ _ _ answer => some answer
  | _ => none

theorem answer?_called (c : Coordinator) (task : TaskId) (job : Job) :
    (c.called task).answer? job = c.answer? job := by
  have same : ∀ x, (c.called task).sendAnswer x = c.sendAnswer x := fun x => by
    funext address
    simp only [sendAnswer, provisionalId]
    cases x.inbound.correlationId? <;> rfl
  cases job with
  | request x limit waiting =>
      rw [answer?, same]
      rfl
  | _ => rfl

/-- What the turn of a request comes to that is not registered yet. -/
inductive Seeks (c : Coordinator) (task : TaskId) (x : Exchange) (limit : Duration) :
    Job → Coordinator → Prop
  /-- It waits for the reply address. -/
  | waits {waiting : Option Instant} {deadline : Instant} (unknown : c.replyAddress = none)
      (later : c.now < deadline) :
      Seeks c task x limit (.request x limit waiting)
        (c.park task (.request x limit (some deadline)))
  /-- It has waited long enough. -/
  | unaddressed {waiting : Option Instant} {deadline : Instant} (unknown : c.replyAddress = none)
      (patience : c.addressDeadline? waiting = some deadline) (come : deadline ≤ c.now) :
      Seeks c task x limit (.request x limit waiting)
        (c.finish task (.returned (x.withFailure c.unaddressed)))
  /-- There is no timer for the end of its wait. -/
  | untimed {waiting : Option Instant} (unknown : c.replyAddress = none)
      (unfit : c.addressDeadline? waiting = none) :
      Seeks c task x limit (.request x limit waiting) (c.finish task (.panicked beyondClock))
  /-- The transport does not send it. -/
  | unsent {job : Job} {sent : Coordinator} {failure : Failure}
      (refused : c.answer? job = some (.error failure)) (tends : Tends c sent) :
      Seeks c task x limit job (sent.finish task (.returned (x.withFailure failure)))
  /-- It is sent, and the clock cannot hold its deadline. -/
  | unfit {job : Job} {sent : Coordinator} {assigned : Option String}
      (accepted : c.answer? job = some (.ok assigned)) (running : c.lifecycle.runAllowed = true)
      (unfit : c.now.after? limit = none) (tends : Tends c sent) :
      Seeks c task x limit job (sent.finish task (.panicked beyondClock))
  /-- It is sent and registered, and looks for the verdict. -/
  | registered {job : Job} {sent : Coordinator} {ticket : Ticket}
      (next : ticket = c.handoffs.length) (tends : Tends c sent)
      (awaited : sent.awaited? ticket = some true)
      (registers : c.registers? (c.jobDeed job) = some (x, limit)) :
      Seeks c task x limit job (sent.collect task ticket)

/-- A request goes on with the answer of its transport. -/
theorem settleSend_seeks {sent : Coordinator} {id : String}
    {answer : Except Failure (Option String)} (answered : c.answer? job = some answer)
    (tends : Tends c sent) (quiet : Quiet c sent)
    (deed : ∀ assigned, answer = .ok assigned →
      c.jobDeed job = .enrol { exchange := x, id, timeout := limit, assigned }) :
    c.Seeks task x limit job (sent.settleSend task x id limit answer) := by
  cases answer with
  | error failure => exact .unsent answered tends
  | ok assigned =>
      cases enrols : sent.enrol x id limit with
      | error panic =>
          simp only [settleSend, enrols]
          rcases sent.enrol_cases x id limit with
            ⟨_, refused⟩ | ⟨running, unfit, panics⟩ | ⟨_, _, _, placed⟩
          · simp [refused] at enrols
          · rw [panics, Except.error.injEq] at enrols
            rw [← enrols]
            exact .unfit answered (quiet.lifecycle ▸ running) (quiet.now ▸ unfit) tends
          · simp [placed] at enrols
      | ok outcome =>
          obtain ⟨enrolled, ticket⟩ := outcome
          obtain ⟨next, grown, awaited⟩ := ticket_of_enrol enrols
          rw [quiet.handoffs] at next
          have entered := tends.trans (tends_enrol enrols)
          let enrolment : Enrolment := { exchange := x, id, timeout := limit, assigned }
          have given : sent.enrol enrolment.exchange enrolment.id enrolment.timeout =
              .ok (enrolled, ticket) := enrols
          have registers : c.registers? (c.jobDeed job) = some (x, limit) := by
            rw [deed assigned rfl, ← quiet.registers?]
            exact registers?_of_ok given
          simp only [settleSend, enrols]
          split
          · next target _ =>
              have moves := enrolled.tends_rekey id target
              exact .registered next (entered.trans moves)
                ((moves.awaited grown).trans awaited) registers
          · exact .registered next entered awaited registers

/-- **The turn of a request that is not registered yet.** -/
theorem runJob_seeks (c : Coordinator) (task : TaskId) (asks : job.Asks x limit) :
    c.Seeks task x limit job (c.runJob task job) := by
  cases asks with
  | answer id answer =>
      refine settleSend_seeks rfl (.refl c) (.refl c) fun assigned same => ?_
      rw [same]
      rfl
  | address waiting =>
      change c.Seeks task x limit _ (c.seekAddress task x limit waiting)
      cases known : c.replyAddress with
      | none =>
          simp only [seekAddress, known]
          cases patience : c.addressDeadline? waiting with
          | none => exact .untimed known patience
          | some deadline =>
              simp only
              split
              · next come => exact .unaddressed known patience come
              · next later => exact .waits known (Nat.not_le.mp later)
      | some address =>
          obtain ⟨sent, tends, quiet, _, sends⟩ := c.sendRequest_tends task x limit address
          simp only [seekAddress, known]
          rw [sends]
          have answered : c.answer? (.request x limit waiting) =
              some (c.sendAnswer x address) := by rw [answer?, known, Option.map_some]
          refine settleSend_seeks answered tends quiet fun assigned accepted => ?_
          rw [sendAnswer] at accepted
          simp only [jobDeed, known, accepted]

/-! ## Why a step ends -/

/-- With the `m`-th event of a run a task takes its turn that stands at a job. -/
structure TurnAt (c : Coordinator) (choices : List Choice) (task : TaskId) (job : Job) (m : Nat) :
    Prop where
  turn : choices[m]? = some (.turn task)
  standing : (c.before choices m).job? task = some job

/-- A turn of a task before the `n`-th event has registered its request under a ticket. -/
def RegisteredBy (c : Coordinator) (choices : List Choice) (task : TaskId)
    (request : Exchange × Duration) (n : Nat) (ticket : Ticket) : Prop :=
  ∃ m < n, choices[m]? = some (.turn task) ∧ c.RegistersAt choices ticket request m

/-- With what a task hands the exchange of its request back, because of an event before the `n`-th
one of a run. -/
inductive HandsBack (c : Coordinator) (choices : List Choice) (task : TaskId) (x : Exchange)
    (limit : Duration) (n : Nat) : Handback → Prop
  /-- The suspension has ended. -/
  | ended {ticket : Ticket} {m : Nat} {ending : Ending}
      (registered : c.RegisteredBy choices task (x, limit) n ticket) (before : m < n)
      (ends : c.EndsAt choices ticket (x, limit) m ending) :
      HandsBack c choices task x limit n (ending.handback limit)
  /-- The transport has refused to send the request. -/
  | unsent {m : Nat} {job : Job} {failure : Failure} (before : m < n)
      (turn : c.TurnAt choices task job m) (asks : job.Asks x limit)
      (refused : (c.before choices m).answer? job = some (.error failure)) :
      HandsBack c choices task x limit n (.failure failure)
  /-- The reply address did not become known in time. -/
  | unaddressed {m : Nat} {waiting : Option Instant} {deadline : Instant} (before : m < n)
      (turn : c.TurnAt choices task (.request x limit waiting) m)
      (unknown : (c.before choices m).replyAddress = none)
      (patience : (c.before choices m).addressDeadline? waiting = some deadline)
      (come : deadline ≤ (c.before choices m).now) :
      HandsBack c choices task x limit n (.failure (c.before choices m).unaddressed)

/-- A turn of a task before the `n`-th event has come upon an instant that the clock cannot hold:
the end of its wait for the reply address, or the deadline of a request that was sent. -/
inductive OffTheClock (c : Coordinator) (choices : List Choice) (task : TaskId) (x : Exchange)
    (limit : Duration) (n : Nat) : Prop
  | address {m : Nat} {waiting : Option Instant} (before : m < n)
      (turn : c.TurnAt choices task (.request x limit waiting) m)
      (unknown : (c.before choices m).replyAddress = none)
      (unfit : (c.before choices m).addressDeadline? waiting = none)
  | deadline {m : Nat} {job : Job} {assigned : Option String} (before : m < n)
      (turn : c.TurnAt choices task job m) (asks : job.Asks x limit)
      (accepted : (c.before choices m).answer? job = some (.ok assigned))
      (running : (c.before choices m).lifecycle.runAllowed = true)
      (unfit : (c.before choices m).now.after? limit = none)

/-- What a task reports that has ended before the `n`-th event. -/
inductive Reports (c : Coordinator) (choices : List Choice) (task : TaskId) (x : Exchange)
    (limit : Duration) (n : Nat) : Report → Prop
  /-- The step hands the exchange back. -/
  | answers {report : Report} {handback : Handback} (answers : report.isAnswer = true)
      (hands : c.HandsBack choices task x limit n handback)
      (gives : handback.Gives x (RequestReply.conclude x report)) :
      Reports c choices task x limit n report
  /-- The exchange is lost. -/
  | panics (off : c.OffTheClock choices task x limit n) :
      Reports c choices task x limit n (.panicked beyondClock)

theorem RegisteredBy.later {request : Exchange × Duration}
    (registered : c.RegisteredBy choices task request n ticket) (later : n ≤ m) :
    c.RegisteredBy choices task request m ticket := by
  obtain ⟨k, before, turn, registers⟩ := registered
  exact ⟨k, Nat.lt_of_lt_of_le before later, turn, registers⟩

theorem HandsBack.later (hands : c.HandsBack choices task x limit n handback) (later : n ≤ m) :
    c.HandsBack choices task x limit m handback := by
  cases hands with
  | ended registered before ends =>
      exact .ended (registered.later later) (Nat.lt_of_lt_of_le before later) ends
  | unsent before turn asks refused =>
      exact .unsent (Nat.lt_of_lt_of_le before later) turn asks refused
  | unaddressed before turn unknown patience come =>
      exact .unaddressed (Nat.lt_of_lt_of_le before later) turn unknown patience come

theorem OffTheClock.later (off : c.OffTheClock choices task x limit n) (later : n ≤ m) :
    c.OffTheClock choices task x limit m := by
  cases off with
  | address before turn unknown unfit =>
      exact .address (Nat.lt_of_lt_of_le before later) turn unknown unfit
  | deadline before turn asks accepted running unfit =>
      exact .deadline (Nat.lt_of_lt_of_le before later) turn asks accepted running unfit

theorem Reports.later (reports : c.Reports choices task x limit n report) (later : n ≤ m) :
    c.Reports choices task x limit m report := by
  cases reports with
  | answers answers hands gives => exact .answers answers (hands.later later) gives
  | panics off => exact .panics (off.later later)

/-- The step hands its exchange back with a failure. -/
theorem HandsBack.reports {failure : Failure}
    (hands : c.HandsBack choices task x limit n (.failure failure)) :
    c.Reports choices task x limit n (.returned (x.withFailure failure)) :=
  .answers rfl hands (Handback.gives_failure x failure)

/-- **A verdict on the ticket of a request** is what the step hands back. -/
theorem RegisteredBy.reports (registered : c.RegisteredBy choices task (x, limit) n ticket)
    (sound : c.Sound [] []) (calls : ∀ choice ∈ choices, choice.isCall)
    (shown : (c.before choices n).verdict? ticket = some verdict) :
    c.Reports choices task x limit n verdict.report := by
  obtain ⟨m, before, turn, registers⟩ := registered
  have known := registers.registered sound calls before
  have open_first : c.verdict? ticket = none := by
    rw [verdict?, List.getElem?_eq_none (by simp [sound.size])]
    rfl
  obtain ⟨request, k, ending, listed, ends, rfl⟩ :=
    sound.exists_endsAt (calls_take calls n) open_first shown
  rw [List.nil_append, known, Option.some_inj] at listed
  rw [← listed] at ends ⊢
  obtain ⟨less, ends⟩ := ends.of_take
  exact .answers (Verdict.isAnswer_report _)
    (.ended ⟨m, before, turn, registers⟩ less ends) (ending.gives x limit)

/-! ## Where a step is -/

/-- A task that waits for a verdict reports it with its turn. -/
theorem Sound.reports_turn (sound : c.Sound books [])
    (standing : c.job? task = some (.suspended ticket)) (awaited : c.awaited? ticket = some true)
    (shown : c.verdict? ticket = some verdict) :
    (c.turn task).reports task = verdict.report :: c.reports task := by
  have turn : c.turn task = (c.called task).collect task ticket :=
    turn_eq standing (sound.leads_called standing).sound.held
  rw [turn]
  rcases (c.called task).collect_cases task awaited with
    ⟨pending, _⟩ | ⟨_, after, settled, _, collects⟩
  · exact absurd (shown.symm.trans pending) (by simp)
  · obtain rfl := Option.some.inj (shown.symm.trans settled)
    rw [collects, reports_finish, if_pos rfl]
    rfl

/-- Where the task of a step has come to before the `n`-th event of a run. -/
inductive Progress (c : Coordinator) (choices : List Choice) (task : TaskId) (x : Exchange)
    (limit : Duration) (n : Nat) : Prop
  | asks {job : Job} (asks : job.Asks x limit)
      (standing : (c.before choices n).job? task = some job)
      (silent : (c.before choices n).reports task = [])
  | waits {ticket : Ticket} (registered : c.RegisteredBy choices task (x, limit) n ticket)
      (standing : (c.before choices n).job? task = some (.suspended ticket))
      (silent : (c.before choices n).reports task = [])
  | finished {report : Report} (gone : (c.before choices n).job? task = none)
      (once : (c.before choices n).reports task = [report])
      (reports : c.Reports choices task x limit n report)

theorem not_cued_request {deadline : Instant} (unknown : c.replyAddress = none)
    (later : c.now < deadline) : ¬ c.Cued (.request x limit (some deadline)) := by
  rintro (address | come)
  · simp [unknown] at address
  · exact Nat.not_le.mpr later (Nat.le_trans (Instant.le_tick deadline) come)

theorem not_cued_suspended (pending : c.verdict? ticket = none) :
    ¬ c.Cued (.suspended ticket) := by
  simp [Cued, pending]

/-- Nobody waits yet for the verdict on a ticket that is new. -/
theorem Tidy.alone (tidy : c.Tidy) {gone : List TaskId} {other : TaskId}
    (apart : Apart task gone c d) (awaits : d.Awaits other c.handoffs.length) : other = task := by
  by_contra different
  exact Nat.lt_irrefl _ (tidy.tickets (apart.awaits_of different awaits))

/-- Whatever happens besides, the task of a step stays where it is. -/
theorem Progress.lets (progress : c.Progress choices task x limit n)
    (lets : Lets task (c.before choices n) (c.before choices m)) (later : n ≤ m) :
    c.Progress choices task x limit m := by
  cases progress with
  | asks asks standing silent =>
      exact .asks asks ((lets.job?_iff asks.lasting).mpr standing) (lets.reports.trans silent)
  | waits registered standing silent =>
      exact .waits (registered.later later) ((lets.job?_iff rfl).mpr standing)
        (lets.reports.trans silent)
  | finished gone once reports =>
      exact .finished (lets.missing gone) (lets.reports.trans once) (reports.later later)

/-- What one event after the other keeps of the task of a step. -/
structure Follows (c : Coordinator) (choices : List Choice) (task : TaskId) (x : Exchange)
    (limit : Duration) (n : Nat) : Prop where
  undisturbed : (c.before choices n).Undisturbed task
  progress : c.Progress choices task x limit n

/-- What a turn of the task makes of that: it comes to wait for something, or ends. -/
structure Rested (c : Coordinator) (choices : List Choice) (task : TaskId) (x : Exchange)
    (limit : Duration) (n : Nat) : Prop extends Follows c choices task x limit n where
  waiting : (c.before choices n).Waiting task

/-! ## Turns of a step -/

/-- A task ends with its turn. -/
theorem Rested.finish {sent : Coordinator}
    (after : c.before choices (n + 1) = sent.finish task report)
    (ended : sent.ended = (c.before choices n).ended)
    (silent : (c.before choices n).reports task = [])
    (undisturbed : (c.before choices n).Undisturbed task)
    (stems : Stems (c.before choices n) (c.before choices (n + 1)))
    (reports : c.Reports choices task x limit (n + 1) report) :
    c.Rested choices task x limit (n + 1) := by
  have gone : (c.before choices (n + 1)).job? task = none := by rw [after, job?_finish]
  refine ⟨⟨undisturbed.of_ended stems gone, .finished gone ?_ reports⟩, waiting_of_ended gone⟩
  rw [after, reports_finish, if_pos rfl, Coordinator.reports, ended, ← Coordinator.reports, silent]

section

variable (sound : c.Sound [] []) (tidy : c.Tidy) (calls : ∀ choice ∈ choices, choice.isCall)

include sound tidy calls

theorem Tidy.before (n : Nat) : (c.before choices n).Tidy :=
  before_induction tidy (fun n choice there tidy =>
    (tidy.step (sound.before calls n) (calls choice (List.mem_of_getElem? there))).2) n

theorem stems_turn (there : choices[n]? = some (.turn task)) :
    Stems (c.before choices n) (c.before choices (n + 1)) := by
  rw [before_succ there]
  exact ((tidy.before sound calls n).step (sound.before calls n)
    (calls _ (List.mem_of_getElem? there))).1

omit tidy in
/-- A task looks for the verdict on the ticket of its request. -/
theorem Rested.collects {sent : Coordinator}
    (registered : c.RegisteredBy choices task (x, limit) (n + 1) ticket)
    (after : c.before choices (n + 1) = sent.collect task ticket)
    (tends : Tends ((c.before choices n).called task) sent)
    (awaited : sent.awaited? ticket = some true)
    (standing : (c.before choices n).job? task = some job)
    (silent : (c.before choices n).reports task = [])
    (undisturbed : (c.before choices n).Undisturbed task)
    (stems : Stems (c.before choices n) (c.before choices (n + 1)))
    (alone : ∀ other, (c.before choices (n + 1)).Awaits other ticket → other = task) :
    c.Rested choices task x limit (n + 1) := by
  rcases sent.collect_cases task awaited with
    ⟨pending, parks⟩ | ⟨verdict, _, shown, looks, collects⟩
  · rw [parks] at after
    have parked : (c.before choices (n + 1)).job? task = some (.suspended ticket) := by
      rw [after, job?_park, if_pos rfl, tends.kept standing, Option.map_some]
    have kept : (c.before choices (n + 1)).reports task = [] := by
      rw [after, ← silent]
      exact congrArg (fun ended => (List.filter _ ended).map _) tends.ended
    have waits := not_cued_suspended pending
    refine ⟨⟨?_, .waits registered parked kept⟩, ?_⟩
    · rw [after] at stems alone ⊢
      refine undisturbed.of_park stems (tends.kept standing) waits ?_
      rintro other ⟨⟩
      exact ⟨awaited, alone⟩
    · rw [after]
      exact waiting_of_park (tends.kept standing) waits
  · rw [collects] at after
    have settled : (c.before choices (n + 1)).verdict? ticket = some verdict := by
      rw [after, ← shown]
      exact verdict?_looked looks ticket
    exact .finish after tends.ended silent undisturbed stems
      (registered.reports sound calls settled)

/-- **A turn of a request that is not registered yet.** -/
theorem Rested.turn_asks (asks : job.Asks x limit)
    (standing : (c.before choices n).job? task = some job)
    (silent : (c.before choices n).reports task = [])
    (undisturbed : (c.before choices n).Undisturbed task)
    (there : choices[n]? = some (.turn task)) : c.Rested choices task x limit (n + 1) := by
  have late := Nat.lt_succ_self n
  have here := sound.before calls n
  have still := tidy.before sound calls n
  have turn : c.TurnAt choices task job n := ⟨there, standing⟩
  have stems := stems_turn sound tidy calls there
  obtain ⟨_, apart, _⟩ := here.turn_stems still.numbered task
  have seeks := ((c.before choices n).called task).runJob_seeks task asks
  rw [← turn_eq standing (here.leads_called standing).sound.held] at seeks
  -- `cases` wants a variable in the place of the coordinator after the turn
  obtain ⟨d, after⟩ : ∃ d, c.before choices (n + 1) = d := ⟨_, rfl⟩
  have same : (c.before choices n).turn task = d := (before_succ there).symm.trans after
  rw [same] at seeks apart
  cases seeks with
  | @waits _ deadline unknown later =>
      have parked : (c.before choices (n + 1)).job? task =
          some (.request x limit (some deadline)) := by
        rw [after, job?_park, if_pos rfl]
        exact congrArg (Option.map _) standing
      have waits : ¬ ((c.before choices n).called task).Cued (.request x limit (some deadline)) :=
        not_cued_request unknown later
      refine ⟨⟨?_, .asks (.address (some deadline)) parked (after ▸ silent)⟩, ?_⟩
      · rw [after] at stems ⊢
        exact undisturbed.of_park stems standing waits (by simp)
      · rw [after]
        exact waiting_of_park standing waits
  | unaddressed unknown patience come =>
      exact .finish after rfl silent undisturbed stems
        (HandsBack.reports (.unaddressed late turn unknown patience come))
  | untimed unknown unfit =>
      exact .finish after rfl silent undisturbed stems (.panics (.address late turn unknown unfit))
  | unsent refused tends =>
      rw [answer?_called] at refused
      exact .finish after tends.ended silent undisturbed stems
        (HandsBack.reports (.unsent late turn asks refused))
  | unfit accepted running unfit tends =>
      rw [answer?_called] at accepted
      exact .finish after tends.ended silent undisturbed stems
        (.panics (.deadline late turn asks accepted running unfit))
  | @registered _ sent ticket new tends awaited registers =>
      rw [jobDeed_called] at registers
      have registered : c.RegisteredBy choices task (x, limit) (n + 1) ticket :=
        ⟨n, late, there, new, .turn task, there, by rwa [deed_turn standing]⟩
      exact .collects sound calls registered after tends awaited standing silent undisturbed stems
        fun other awaits => still.alone apart (new ▸ after ▸ awaits)

/-- **A turn of a request that waits for its verdict.** -/
theorem Rested.turn_waits (registered : c.RegisteredBy choices task (x, limit) n ticket)
    (standing : (c.before choices n).job? task = some (.suspended ticket))
    (silent : (c.before choices n).reports task = [])
    (undisturbed : (c.before choices n).Undisturbed task)
    (there : choices[n]? = some (.turn task)) : c.Rested choices task x limit (n + 1) := by
  have here := sound.before calls n
  have still := tidy.before sound calls n
  have after : c.before choices (n + 1) =
      ((c.before choices n).called task).collect task ticket :=
    (before_succ there).trans (turn_eq standing (here.leads_called standing).sound.held)
  have stems := stems_turn sound tidy calls there
  exact .collects sound calls (registered.later (Nat.le_succ n)) after (.refl _)
    (undisturbed.own standing).1 standing silent undisturbed stems
    fun other awaits => undisturbed.alone still stems standing awaits

/-- **Every turn of the task of a step.** -/
theorem Follows.turn (follows : c.Follows choices task x limit n)
    (there : choices[n]? = some (.turn task)) : c.Rested choices task x limit (n + 1) := by
  obtain ⟨undisturbed, progress⟩ := follows
  cases progress with
  | asks asks standing silent =>
      exact .turn_asks sound tidy calls asks standing silent undisturbed there
  | waits registered standing silent =>
      exact .turn_waits sound tidy calls registered standing silent undisturbed there
  | finished gone once reports =>
      have next : c.before choices (n + 1) = (c.before choices n).called task :=
        (before_succ there).trans (turn_of_ended gone)
      have ended : (c.before choices (n + 1)).job? task = none := next ▸ gone
      exact ⟨⟨undisturbed.of_ended (stems_turn sound tidy calls there) ended,
        .finished ended (next ▸ once) (reports.later (Nat.le_succ n))⟩, waiting_of_ended ended⟩

/-! ## Runs -/

/-- The task of a step begins. -/
theorem Follows.begins (asks : job.Asks x limit) (begins : choices[m]? = some (.spawn job)) :
    c.Follows choices (c.before choices m).begun x limit (m + 1) := by
  have tidy := tidy.before sound calls m
  have next : c.before choices (m + 1) = ((c.before choices m).spawn job).1 := before_succ begins
  obtain ⟨standing, undisturbed⟩ :=
    tidy.undisturbed_spawn (calls _ (List.mem_of_getElem? begins))
  refine ⟨next ▸ undisturbed, .asks asks (next ▸ standing) ?_⟩
  rw [next]
  exact tidy.silent (Nat.le_refl _)

/-- An event that is no turn of the task of a step. -/
theorem Follows.foreign (follows : c.Follows choices task x limit n)
    (foreign : choices[n]? ≠ some (.turn task)) :
    Lets task (c.before choices n) (c.before choices (n + 1)) ∧
      (c.before choices (n + 1)).Undisturbed task := by
  cases there : choices[n]? with
  | none =>
      rw [before_succ_of_none there]
      exact ⟨.refl _, follows.undisturbed⟩
  | some choice =>
      rw [before_succ there]
      exact follows.undisturbed.step (tidy.before sound calls n) (sound.before calls n)
        (calls choice (List.mem_of_getElem? there)) fun own => foreign (own ▸ there)

/-- **Every event.** -/
theorem Follows.succ (follows : c.Follows choices task x limit n) :
    c.Follows choices task x limit (n + 1) := by
  by_cases own : choices[n]? = some (.turn task)
  · exact (follows.turn sound tidy calls own).toFollows
  · obtain ⟨lets, undisturbed⟩ := follows.foreign sound tidy calls own
    exact ⟨undisturbed, follows.progress.lets lets (Nat.le_succ n)⟩

/-- **A whole run.** -/
theorem Follows.of_begins (asks : job.Asks x limit) (begins : choices[m]? = some (.spawn job))
    (n : Nat) (later : m < n) : c.Follows choices (c.before choices m).begun x limit n := by
  induction n, later using Nat.le_induction with
  | base => exact .begins sound tidy calls asks begins
  | succ n _ ih => exact ih.succ sound tidy calls

/-- A task that has reported does so no more. -/
theorem Follows.reports_succ (follows : c.Follows choices task x limit n)
    (reported : (c.before choices n).reports task = [report]) :
    (c.before choices (n + 1)).reports task = [report] := by
  by_cases own : choices[n]? = some (.turn task)
  · have gone : (c.before choices n).job? task = none := by
      cases follows.progress with
      | asks _ _ silent => simp [silent] at reported
      | waits _ _ silent => simp [silent] at reported
      | finished gone _ _ => exact gone
    rw [before_succ own]
    change ((c.before choices n).turn task).reports task = [report]
    rw [turn_of_ended gone]
    exact reported
  · exact (follows.foreign sound tidy calls own).1.reports.trans reported

end

/-- A task waits for the reply address, and the timer that ends its wait is still to fire. -/
structure AwaitsAddress (c : Coordinator) (task : TaskId) (x : Exchange) (limit : Duration)
    (deadline : Instant) : Prop where
  standing : c.job? task = some (.request x limit (some deadline))
  unknown : c.replyAddress = none
  timer : (Instant.tick deadline, task) ∈ c.timers
  later : c.now < Instant.tick deadline

/-- Where the task of a step is before the `n`-th event of a run, when it has nothing to do. -/
inductive Stays (c : Coordinator) (choices : List Choice) (task : TaskId) (x : Exchange)
    (limit : Duration) (n : Nat) : Prop
  | awaitsAddress {deadline : Instant} (silent : (c.before choices n).reports task = [])
      (awaits : (c.before choices n).AwaitsAddress task x limit deadline)
  /-- Its request is registered, and its exchange is there. -/
  | waits {entry : Pending}
      (registered : c.RegisteredBy choices task (x, limit) n entry.ticket)
      (standing : (c.before choices n).job? task = some (.suspended entry.ticket))
      (silent : (c.before choices n).reports task = [])
      (inside : entry ∈ (c.before choices n).registry.entries)
      (request : (entry.exchange, entry.timeout) = (x, limit))
  /-- It has ended, with one report. -/
  | finished {report : Report} (gone : (c.before choices n).job? task = none)
      (once : (c.before choices n).reports task = [report])
      (reports : c.Reports choices task x limit n report)

/-- Where the task of a step is before the `n`-th event of a run. -/
inductive Stands (c : Coordinator) (choices : List Choice) (task : TaskId) (x : Exchange)
    (limit : Duration) (n : Nat) : Prop
  | stays (stays : c.Stays choices task x limit n)
  /-- It can run: it looks for the reply address, or goes on with the answer of its transport. -/
  | asks {job : Job} (asks : job.Asks x limit)
      (standing : (c.before choices n).job? task = some job)
      (silent : (c.before choices n).reports task = []) (ready : task ∈ (c.before choices n).ready)
  /-- Its suspension has ended. It can run, and reports so with its next turn. -/
  | collects {ticket : Ticket} {report : Report}
      (standing : (c.before choices n).job? task = some (.suspended ticket))
      (silent : (c.before choices n).reports task = [])
      (ready : task ∈ (c.before choices n).ready)
      (next : ((c.before choices n).turn task).reports task = [report])
      (reports : c.Reports choices task x limit n report)

theorem Follows.stays (follows : c.Follows choices task x limit n) (sound : c.Sound [] [])
    (calls : ∀ choice ∈ choices, choice.isCall) (waiting : (c.before choices n).Waiting task) :
    c.Stays choices task x limit n := by
  have here := sound.before calls n
  cases follows.progress with
  | asks asks standing silent =>
      have waits := waiting _ standing
      cases asks with
      | answer id answer => exact absurd trivial waits
      | address patience =>
          cases patience with
          | none => exact absurd trivial waits
          | some deadline =>
              rw [Cued, not_or, Option.not_isSome_iff_eq_none, Nat.not_le] at waits
              exact .awaitsAddress silent
                ⟨standing, waits.1, timer_of_job? standing rfl, waits.2⟩
  | @waits ticket registered standing silent =>
      have known : (c.registrations (choices.take n))[ticket]? = some (x, limit) := by
        obtain ⟨m, before, _, registers⟩ := registered
        exact registers.registered sound calls before
      have pending : (c.before choices n).verdict? ticket = none :=
        Option.not_isSome_iff_eq_none.mp (waiting _ standing)
      obtain ⟨entry, inside, rfl⟩ :=
        here.exists_entry (List.getElem?_eq_some_iff.mp known).1 pending
      have agrees := (here.agrees inside).1
      rw [known, Option.some_inj] at agrees
      exact .waits registered standing silent inside agrees.symm
  | finished gone once reports => exact .finished gone once reports

theorem Follows.stands (follows : c.Follows choices task x limit n) (sound : c.Sound [] [])
    (calls : ∀ choice ∈ choices, choice.isCall) : c.Stands choices task x limit n := by
  by_cases waiting : (c.before choices n).Waiting task
  · exact .stays (follows.stays sound calls waiting)
  · obtain ⟨job, standing, cued⟩ : ∃ job, (c.before choices n).job? task = some job ∧
        (c.before choices n).Cued job := by
      simpa [Waiting] using waiting
    have ready := follows.undisturbed.alert standing cued
    cases follows.progress with
    | asks asks there silent => exact .asks asks there silent ready
    | @waits ticket registered there silent =>
        obtain rfl := Option.some.inj (standing.symm.trans there)
        obtain ⟨verdict, shown⟩ := Option.isSome_iff_exists.mp cued
        have reported := (sound.before calls n).reports_turn there
          (follows.undisturbed.own there).1 shown
        rw [silent] at reported
        exact .collects there silent ready reported (registered.reports sound calls shown)
    | finished gone _ _ =>
        rw [gone] at standing
        simp at standing

/-- A task that has ended has reported. -/
theorem Stands.reports (stands : c.Stands choices task x limit n)
    (gone : (c.before choices n).job? task = none) :
    ∃ report, (c.before choices n).reports task = [report] ∧
      c.Reports choices task x limit n report := by
  cases stands with
  | asks _ standing => simp [gone] at standing
  | collects standing => simp [gone] at standing
  | stays stays =>
      cases stays with
      | awaitsAddress _ awaits => exact absurd awaits.standing (by simp [gone])
      | waits _ standing => simp [gone] at standing
      | finished _ once reports => exact ⟨_, once, reports⟩

/-- The exchange that a step was given stays safe until the step hands it back, which it does
once. -/
structure HandsBackOnce (c : Coordinator) (choices : List Choice) (task : TaskId) (x : Exchange)
    (limit : Duration) (m : Nat) : Prop where
  /-- If something has come that the step waits for, its task can run. -/
  stands : ∀ n, m < n → c.Stands choices task x limit n
  /-- With a turn it goes on until there is nothing to do. -/
  turns : ∀ n, m < n → choices[n]? = some (.turn task) → c.Stays choices task x limit (n + 1)
  /-- What it has reported it has reported for good. -/
  once : ∀ n k report, m < n → n ≤ k → (c.before choices n).reports task = [report] →
    (c.before choices k).reports task = [report]

/-- **A request/reply step hands its exchange back.** Whatever callers begin, in whatever order
tasks take their turns and time passes, the exchange waits with the task or in the registry until
the request has ended. The step then hands it back once, as it was but for the reply or the failure
that this ending means. It has lost the exchange only if its task came upon an instant that the
clock cannot hold. -/
theorem steps_hand_back (config : CoordinatorConfig) (transport : Transport)
    (naming : Nat → String) (choices : List Choice) (calls : ∀ choice ∈ choices, choice.isCall)
    (timeout : Option Duration) (x : Exchange) (job : Job)
    (step : RequestReply.Begins config timeout x job) (m : Nat)
    (begins : choices[m]? = some (.spawn job)) :
    (create config transport naming).HandsBackOnce choices
      ((create config transport naming).before choices m).begun x
      (timeout.getD config.defaultRequestTimeout) m := by
  have sound := sound_create config transport naming
  have tidy := tidy_create config transport naming
  generalize create config transport naming = c at sound tidy
  have follows := fun n later => Follows.of_begins sound tidy calls step.asks begins n later
  refine ⟨fun n later => (follows n later).stands sound calls, fun n later own => ?_,
    fun n k report later after reported => ?_⟩
  · have rested := (follows n later).turn sound tidy calls own
    exact rested.toFollows.stays sound calls rested.waiting
  · induction k, after using Nat.le_induction with
    | base => exact reported
    | succ k after ih =>
        exact (follows k (Nat.lt_of_lt_of_le later after)).reports_succ sound tidy calls ih

/-- An exchange that goes out as a request. -/
def parcel : Exchange := Exchange.receive "parcel" (Message.ofBody (.text "Hello"))

/-- A coordinator whose transport answers at once. -/
def answersAtOnce : Coordinator := create default default fun _ => "a"

/-- One step has a timeout that the clock can hold, the other one has the longest there is. -/
def twoSteps : List Choice :=
  [.start, .turn 0, .spawn (RequestReply.job default none parcel),
   .spawn (RequestReply.job default (some Duration.longest) parcel), .turn 2, .turn 3, .turn 4,
   .turn 2]

/-- One step hands its exchange back, with the reply; the other one has lost it. -/
theorem steps_hand_back_twoSteps :
    (∀ choice ∈ twoSteps, choice.isCall) ∧
      twoSteps[2]? = some (.spawn (RequestReply.job default none parcel)) ∧
      twoSteps[3]? = some (.spawn (RequestReply.job default (some Duration.longest) parcel)) ∧
      (∃ y handback, (answersAtOnce.before twoSteps 8).reports 2 = [.returned y] ∧
        answersAtOnce.HandsBack twoSteps 2 parcel (Duration.ofSeconds 20) 8 handback ∧
        handback.Gives parcel y) ∧
      answersAtOnce.OffTheClock twoSteps 3 parcel Duration.longest 8 := by
  have calls : ∀ choice ∈ twoSteps, choice.isCall := by decide
  have answered : (answersAtOnce.before twoSteps 8).reports 2 = [.returned { parcel with
      outbound := some ((Message.ofBody (.text "Bye Hello")).withHeader "CorrelationId" "a") }] :=
    rfl
  have lost : (answersAtOnce.before twoSteps 8).reports 3 = [.panicked beyondClock] := rfl
  obtain ⟨report, once, reports⟩ :=
    ((steps_hand_back default default (fun _ => "a") twoSteps calls none parcel _ .needsAddress 2
      rfl).stands 8 (by decide)).reports rfl
  obtain ⟨again, onceToo, reportsToo⟩ :=
    ((steps_hand_back default default (fun _ => "a") twoSteps calls (some Duration.longest) parcel _
      .needsAddress 3 rfl).stands 8 (by decide)).reports rfl
  obtain rfl := List.singleton_inj.mp (answered.symm.trans once)
  obtain rfl := List.singleton_inj.mp (lost.symm.trans onceToo)
  refine ⟨calls, rfl, rfl, ?_, ?_⟩
  · cases reports with
    | answers _ hands gives => exact ⟨_, _, answered, hands, gives⟩
  · cases reportsToo with
    | answers answers => simp [Report.isAnswer] at answers
    | panics off => exact off

end Coordinator

end Mediation
