import Mediation.Proofs.Coordinator.Live

/-!
# Requests under way

Over a loopback every request that is sent is a flight: it stands in the registry under the id that
its reply will carry, its requester waits for the verdict, and a task of its own brings the reply
(`Flying`). Then the verdict is there and the requester can run (`Answered`), and at last the
requester has returned with the reply (`Returned`). A coordinator serves its flights if each is in
one of the three states and nothing else is in the registry (`Serves`). What only concerns the
coordinator's own tasks, or lets time pass until the next timer, keeps it so (`Serves.of_passes`).
-/

set_option autoImplicit false

namespace Mediation

/-- The id that a loopback assigns to the request it is sent at a place, counted from 0. -/
def Loopback.assignedId (index : Nat) : String := "loopback-" ++ toString (index + 1)

/-- A request that was sent. -/
structure Flight where
  task : TaskId
  /-- The task that brings the reply. -/
  carrier : TaskId
  exchange : Exchange
  timeout : Duration
  /-- The id that it was sent under. -/
  id : String
  replyTo : String
  instant : Instant

namespace Flight

variable (settings : Loopback) (index : Nat) (flight : Flight)

/-- The id that the reply carries. -/
def replyId : String := if settings.assignIds then Loopback.assignedId index else flight.id

def reply : Message :=
  (settings.responder flight.exchange.inbound).withHeader Message.correlationHeader
    (flight.replyId settings index)

/-- The instant until which the reply is on its way. -/
def due : Instant := flight.instant.wakeUp settings.replyLatency

/-- What the task that brings the reply does. -/
def errand : Job :=
  if settings.replyLatency.isZero then .deliver (flight.reply settings index)
  else .carried (flight.reply settings index) (flight.due settings)

/-- The instant at which the reply comes: timers fire at whole milliseconds. -/
def arrival : Instant :=
  if settings.replyLatency.isZero then flight.instant else Instant.tick (flight.due settings)

/-- How the request stands in the registry. -/
def entry : Pending :=
  { correlationId := flight.replyId settings index
    firstId := if settings.assignIds then some flight.id else none
    createdAt := flight.instant
    deadline := flight.instant.plus flight.timeout
    timeout := flight.timeout
    exchange := flight.exchange
    ticket := index }

/-- The exchange with its reply, under the id that the request was sent under. -/
def answer : Exchange :=
  { flight.exchange with
    outbound := some ((settings.responder flight.exchange.inbound).withHeader
      Message.correlationHeader flight.id) }

/-- What the transport notes. -/
def record : Sent :=
  { provisionalId := flight.id, correlationId := some (flight.replyId settings index),
    replyTo := flight.replyTo, body := flight.exchange.inbound.body }

/-- A request that can get its reply: the clock can hold its deadline, the reply comes before that,
and its id is not empty. -/
structure Answerable : Prop where
  fits : (flight.instant.after? flight.timeout).isSome
  early : flight.arrival settings < flight.instant.plus flight.timeout
  named : flight.id ≠ ""

end Flight

namespace Coordinator

/-- The request that an event sends: a turn of a request that finds the reply address. -/
def launch? (c : Coordinator) : Choice → Option Flight
  | .turn task => match c.job? task, c.replyAddress with
    | some (.request x timeout _), some replyTo =>
      some { task, carrier := c.begun, exchange := x, timeout, id := (c.provisionalId x).2, replyTo,
             instant := c.now }
    | _, _ => none
  | _ => none

/-- What the events of a run bring, in order. -/
def brought {α : Type} (brings : Coordinator → Choice → Option α) (c : Coordinator) :
    List Choice → List α
  | [] => []
  | choice :: rest => (brings c choice).toList ++ brought brings (c.step choice) rest

/-- The requests that a run sends. -/
def flights (c : Coordinator) (choices : List Choice) : List Flight := brought launch? c choices

variable {c d e : Coordinator} {task other : TaskId} {settings : Loopback} {index : Nat}
  {flight : Flight} {flights : List Flight} {job : Job}

theorem brought_append {α : Type} (brings : Coordinator → Choice → Option α) (c : Coordinator)
    (first second : List Choice) :
    brought brings c (first ++ second) =
      brought brings c first ++ brought brings (c.run first) second := by
  induction first generalizing c with
  | nil => rfl
  | cons choice rest ih =>
      rw [List.cons_append, brought, ih, ← List.append_assoc]
      rfl

theorem brought_take_succ {α : Type} (brings : Coordinator → Choice → Option α) {n : Nat}
    {choice : Choice} {choices : List Choice} (there : choices[n]? = some choice) :
    brought brings c (choices.take (n + 1)) =
      brought brings c (choices.take n) ++ (brings (c.before choices n) choice).toList := by
  rw [List.take_add_one, there, brought_append]
  exact congrArg (brought brings c (choices.take n) ++ ·) (List.append_nil _)

/-- What an event brings is among what the run brings. -/
theorem mem_brought {α : Type} (brings : Coordinator → Choice → Option α) {n : Nat}
    {choice : Choice} {choices : List Choice} {new : α} (there : choices[n]? = some choice)
    (bring : brings (c.before choices n) choice = some new) : new ∈ brought brings c choices := by
  rw [← List.take_append_drop (n + 1) choices, brought_append, brought_take_succ brings there,
    bring]
  exact List.mem_append_left _ (List.mem_append_right _ (List.mem_singleton_self _))

theorem length_brought_take_le {α : Type} (brings : Coordinator → Choice → Option α) (n : Nat)
    (choices : List Choice) :
    (brought brings c (choices.take n)).length ≤ (brought brings c choices).length := by
  have split := brought_append brings c (choices.take n) (choices.drop n)
  rw [List.take_append_drop] at split
  rw [split, List.length_append]
  exact Nat.le_add_right _ _

/-! ## States of a flight -/

/-- A request is registered, and its reply is on its way. -/
structure Flying (c : Coordinator) (settings : Loopback) (index : Nat) (flight : Flight) :
    Prop where
  entry : flight.entry settings index ∈ c.registry.entries
  handoff : c.handoffs[index]? = some Handoff.fresh
  waits : (flight.task, .suspended index) ∈ c.tasks
  errand : (flight.carrier, flight.errand settings index) ∈ c.tasks
  since : flight.instant ≤ c.now
  due : c.now ≤ flight.arrival settings
  comes : c.now = flight.arrival settings → flight.carrier ∈ c.ready

/-- The reply has come, and the requester can run. -/
structure Answered (c : Coordinator) (settings : Loopback) (index : Nat) (flight : Flight) :
    Prop where
  handoff : c.handoffs[index]? = some
    { armed := false, awaited := true, verdict := some (.resumed (flight.answer settings) false) }
  waits : (flight.task, .suspended index) ∈ c.tasks
  ready : flight.task ∈ c.ready
  due : c.now ≤ flight.arrival settings

/-- The requester has returned with the reply, and with nothing else. -/
structure Returned (c : Coordinator) (settings : Loopback) (flight : Flight) : Prop where
  report : ∃ instant, ⟨flight.task, instant, .returned (flight.answer settings)⟩ ∈ c.ended
  only : ∀ ended ∈ c.ended, ended.task = flight.task →
    ended.report = .returned (flight.answer settings)
  gone : c.job? flight.task = none

/-- Every task that has ended is over, and has ended once. -/
structure Reported (c : Coordinator) : Prop where
  once : (c.ended.map (·.task)).Nodup
  finished : ∀ ended ∈ c.ended, ended.task < c.begun ∧ c.job? ended.task = none

/-- A coordinator runs over a loopback that answers it. -/
structure Serving (c : Coordinator) (settings : Loopback) : Prop where
  line : c.transport.line = .loopback settings
  listening : c.transport.listening = true
  dissolved : c.dissolved = false
  running : c.lifecycle.runAllowed = true
  address : c.replyAddress.isSome
  faults : c.config.transferFaults = false
  waits : c.registry.waits = []

/-- What a task does while flights are served. -/
inductive Placed (c : Coordinator) (settings : Loopback) (flights : List Flight) (task : TaskId) :
    Job → Prop
  /-- It is one of the coordinator's own. -/
  | background {job : Job} (own : Job.isBackground job = true) : Placed c settings flights task job
  /-- It has not sent its request yet, and can run. -/
  | asks {x : Exchange} {timeout : Duration} (ready : task ∈ c.ready) :
      Placed c settings flights task (.request x timeout none)
  /-- It waits for the verdict on its request. -/
  | waits {index : Nat} {flight : Flight} (there : flights[index]? = some flight)
      (own : flight.task = task) : Placed c settings flights task (.suspended index)
  /-- It brings a reply. -/
  | carries {index : Nat} {flight : Flight} {job : Job} (there : flights[index]? = some flight)
      (own : flight.carrier = task) (errand : flight.errand settings index = job)
      (flying : c.Flying settings index flight) : Placed c settings flights task job

/-- **A coordinator serves its flights.** -/
structure Serves (c : Coordinator) (settings : Loopback) (flights : List Flight) : Prop where
  live : ∃ registered, c.Live registered
  serving : c.Serving settings
  size : c.handoffs.length = flights.length
  log : c.transport.sent = flights.mapIdx fun index flight => flight.record settings index
  assigned : c.transport.assigned = if settings.assignIds then flights.length else 0
  carriers : (flights.map (·.carrier)).Nodup
  begun : ∀ flight ∈ flights, flight.task < c.begun ∧ flight.carrier < c.begun
  answerable : ∀ flight ∈ flights, flight.Answerable settings
  stages : ∀ index flight, flights[index]? = some flight →
    c.Flying settings index flight ∨ c.Answered settings index flight ∨ c.Returned settings flight
  entries : ∀ entry ∈ c.registry.entries, ∃ index flight, flights[index]? = some flight ∧
    entry = flight.entry settings index ∧ c.Flying settings index flight
  jobs : ∀ entry ∈ c.tasks, c.Placed settings flights entry.1 entry.2
  reported : c.Reported

theorem Flying.keep (flying : c.Flying settings index flight)
    (entries : flight.entry settings index ∈ d.registry.entries)
    (handoff : d.handoffs[index]? = c.handoffs[index]?)
    (tasks : ∀ entry ∈ c.tasks, entry.1 = flight.task ∨ entry.1 = flight.carrier →
      entry ∈ d.tasks)
    (now : c.now ≤ d.now) (due : d.now ≤ flight.arrival settings)
    (comes : d.now = flight.arrival settings → flight.carrier ∈ d.ready) :
    d.Flying settings index flight :=
  ⟨entries, handoff.trans flying.handoff, tasks _ flying.waits (.inl rfl),
    tasks _ flying.errand (.inr rfl), Nat.le_trans flying.since now, due, comes⟩

theorem Answered.keep (answered : c.Answered settings index flight)
    (handoff : d.handoffs[index]? = c.handoffs[index]?)
    (tasks : ∀ entry ∈ c.tasks, entry.1 = flight.task → entry ∈ d.tasks)
    (ready : flight.task ∈ d.ready) (now : d.now = c.now) : d.Answered settings index flight :=
  ⟨handoff.trans answered.handoff, tasks _ answered.waits rfl, ready, now ▸ answered.due⟩

theorem Returned.keep (returned : c.Returned settings flight)
    (ended : ∀ report ∈ c.ended, report ∈ d.ended)
    (new : ∀ report ∈ d.ended, report ∈ c.ended ∨ report.task ≠ flight.task)
    (gone : d.job? flight.task = none) : d.Returned settings flight := by
  obtain ⟨instant, report⟩ := returned.report
  refine ⟨⟨instant, ended _ report⟩, fun other inside same => ?_, gone⟩
  rcases new other inside with old | apart
  · exact returned.only other old same
  · exact absurd same apart

theorem Reported.keep (reported : c.Reported) (ended : d.ended = c.ended)
    (begun : c.begun ≤ d.begun)
    (gone : ∀ other, other < c.begun → c.job? other = none → d.job? other = none) :
    d.Reported where
  once := ended ▸ reported.once
  finished report inside := by
    obtain ⟨old, missing⟩ := reported.finished report (ended ▸ inside)
    exact ⟨Nat.lt_of_lt_of_le old begun, gone _ old missing⟩

/-- A task ends. -/
theorem Reported.more (reported : c.Reported) {last : Ended} (ended : d.ended = last :: c.ended)
    (young : last.task < c.begun) (there : (c.job? last.task).isSome)
    (finished : d.job? last.task = none) (begun : c.begun ≤ d.begun)
    (gone : ∀ other, other < c.begun → c.job? other = none → d.job? other = none) :
    d.Reported where
  once := by
    rw [ended, List.map_cons]
    refine List.nodup_cons.mpr ⟨fun again => ?_, reported.once⟩
    obtain ⟨earlier, inside, same⟩ := List.mem_map.mp again
    rw [← same, (reported.finished earlier inside).2] at there
    simp at there
  finished report inside := by
    rw [ended] at inside
    rcases List.mem_cons.mp inside with rfl | earlier
    · exact ⟨Nat.lt_of_lt_of_le young begun, finished⟩
    · obtain ⟨old, missing⟩ := reported.finished report earlier
      exact ⟨Nat.lt_of_lt_of_le old begun, gone _ old missing⟩

/-! ## Other tasks -/

/-- From `c` to `d` a task has run, or time has passed, and no request has moved on. -/
structure Passes (task : TaskId) (c d : Coordinator) : Prop where
  entries : d.registry.entries = c.registry.entries
  waits : d.registry.waits = c.registry.waits
  handoffs : d.handoffs = c.handoffs
  transport : d.transport = c.transport
  config : d.config = c.config
  lifecycle : d.lifecycle = c.lifecycle
  dissolved : d.dissolved = c.dissolved
  address : c.replyAddress.isSome → d.replyAddress.isSome
  now : c.now ≤ d.now
  begun : d.begun = c.begun
  gone : ∀ other, c.job? other = none → d.job? other = none
  keeps : ∀ entry ∈ c.tasks, Job.isBackground entry.2 = false → entry ∈ d.tasks
  jobs : ∀ entry ∈ d.tasks, entry ∈ c.tasks ∨ Job.isBackground entry.2 = true
  ready : ∀ other ∈ c.ready, other ≠ task → other ∈ d.ready
  ended : d.ended = c.ended ∨ ∃ last, d.ended = last :: c.ended ∧ last.task < c.begun ∧
    (c.job? last.task).isSome ∧ d.job? last.task = none

theorem Serving.of_passes (serving : c.Serving settings) (passes : Passes task c d) :
    d.Serving settings where
  line := passes.transport ▸ serving.line
  listening := passes.transport ▸ serving.listening
  dissolved := passes.dissolved.trans serving.dissolved
  running := passes.lifecycle ▸ serving.running
  address := passes.address serving.address
  faults := passes.config ▸ serving.faults
  waits := passes.waits.trans serving.waits

/-- A job at which no request moves on: it is the coordinator's own, or has nothing to do now. -/
def Spent (c : Coordinator) : Job → Prop
  | .suspended index => c.handoffs[index]? = some Handoff.fresh
  | .carried _ due => c.now < due
  | job => Job.isBackground job = true

theorem isBackground_cases (own : Job.isBackground job = true) :
    (∃ next, job = .sweep next) ∨ ∃ due, job = .resolve due := by
  cases job with
  | sweep next => exact .inl ⟨next, rfl⟩
  | resolve due => exact .inr ⟨due, rfl⟩
  | _ => simp [Job.isBackground] at own

theorem spent_of_background (own : Job.isBackground job = true) : c.Spent job := by
  obtain ⟨next, rfl⟩ | ⟨due, rfl⟩ := isBackground_cases own <;> rfl

theorem errand_cases (flight : Flight) (settings : Loopback) (index : Nat) :
    settings.replyLatency.isZero = true ∧
        flight.errand settings index = .deliver (flight.reply settings index) ∧
        flight.arrival settings = flight.instant ∨
      settings.replyLatency.isZero = false ∧
        flight.errand settings index =
          .carried (flight.reply settings index) (flight.due settings) ∧
        flight.arrival settings = Instant.tick (flight.due settings) := by
  cases zero : settings.replyLatency.isZero <;> simp [Flight.errand, Flight.arrival, zero]

theorem isBackground_errand (flight : Flight) (settings : Loopback) (index : Nat) :
    Job.isBackground (flight.errand settings index) = false := by
  rcases errand_cases flight settings index with ⟨_, errand, _⟩ | ⟨_, errand, _⟩ <;>
    rw [errand] <;> rfl

theorem errand_ne_suspended (flight : Flight) (settings : Loopback) (index : Nat)
    (ticket : Ticket) : flight.errand settings index ≠ .suspended ticket := by
  rcases errand_cases flight settings index with ⟨_, errand, _⟩ | ⟨_, errand, _⟩ <;> simp [errand]

theorem errand_ne_request (flight : Flight) (settings : Loopback) (index : Nat) (x : Exchange)
    (timeout : Duration) (waiting : Option Instant) :
    flight.errand settings index ≠ .request x timeout waiting := by
  rcases errand_cases flight settings index with ⟨_, errand, _⟩ | ⟨_, errand, _⟩ <;> simp [errand]

theorem Flying.of_passes (flying : c.Flying settings index flight) (passes : Passes task c d)
    (due : d.now ≤ flight.arrival settings)
    (comes : d.now = flight.arrival settings → flight.carrier ∈ d.ready) :
    d.Flying settings index flight where
  entry := passes.entries ▸ flying.entry
  handoff := passes.handoffs ▸ flying.handoff
  waits := passes.keeps _ flying.waits rfl
  errand := passes.keeps _ flying.errand (isBackground_errand flight settings index)
  since := Nat.le_trans flying.since passes.now
  due := due
  comes := comes

theorem Answered.of_passes (answered : c.Answered settings index flight)
    (passes : Passes task c d) (due : d.now ≤ flight.arrival settings)
    (idle : ∀ job, (task, job) ∈ c.tasks → c.Spent job) : d.Answered settings index flight where
  handoff := passes.handoffs ▸ answered.handoff
  waits := passes.keeps _ answered.waits rfl
  ready := by
    refine passes.ready _ answered.ready fun same => ?_
    have spent : c.Spent (.suspended index) := idle _ (same ▸ answered.waits)
    rw [Spent, answered.handoff] at spent
    simp [Handoff.fresh] at spent
  due := due

theorem Returned.of_passes (returned : c.Returned settings flight) (passes : Passes task c d) :
    d.Returned settings flight := by
  refine returned.keep (fun report old => ?_) (fun report inside => ?_)
    (passes.gone _ returned.gone)
  · rcases passes.ended with same | ⟨last, more, _⟩
    · rwa [same]
    · rw [more]
      exact List.mem_cons_of_mem _ old
  · rcases passes.ended with same | ⟨last, more, _, there, _⟩
    · exact .inl (same ▸ inside)
    · rw [more] at inside
      rcases List.mem_cons.mp inside with rfl | old
      · refine .inr fun same => ?_
        rw [same, returned.gone] at there
        simp at there
      · exact .inl old

theorem Reported.of_passes (reported : c.Reported) (passes : Passes task c d) : d.Reported := by
  have begun := Nat.le_of_eq passes.begun.symm
  rcases passes.ended with same | ⟨last, more, young, there, finished⟩
  · exact reported.keep same begun fun other _ => passes.gone other
  · exact reported.more more young there finished begun fun other _ => passes.gone other

/-- **What does not concern the requests** leaves them where they are. -/
theorem Serves.of_passes (serves : c.Serves settings flights) (passes : Passes task c d)
    (live : ∃ registered, d.Live registered)
    (clock : ∀ index flight, c.Flying settings index flight → d.now ≤ flight.arrival settings ∧
      (d.now = flight.arrival settings → flight.carrier ∈ d.ready))
    (still : ∀ index flight, c.Answered settings index flight → d.now ≤ flight.arrival settings)
    (idle : ∀ job, (task, job) ∈ c.tasks → c.Spent job) : d.Serves settings flights where
  live := live
  serving := serves.serving.of_passes passes
  size := (congrArg List.length passes.handoffs).trans serves.size
  log := (congrArg Transport.sent passes.transport).trans serves.log
  assigned := (congrArg Transport.assigned passes.transport).trans serves.assigned
  carriers := serves.carriers
  begun flight member :=
    have before := serves.begun flight member
    ⟨passes.begun ▸ before.1, passes.begun ▸ before.2⟩
  answerable := serves.answerable
  stages index flight there := by
    rcases serves.stages index flight there with flying | answered | returned
    · obtain ⟨due, comes⟩ := clock index flight flying
      exact .inl (flying.of_passes passes due comes)
    · exact .inr (.inl (answered.of_passes passes (still index flight answered) idle))
    · exact .inr (.inr (returned.of_passes passes))
  entries entry inside := by
    rw [passes.entries] at inside
    obtain ⟨index, flight, there, same, flying⟩ := serves.entries entry inside
    obtain ⟨due, comes⟩ := clock index flight flying
    exact ⟨index, flight, there, same, flying.of_passes passes due comes⟩
  jobs := by
    rintro ⟨number, job⟩ inside
    rcases passes.jobs _ inside with old | own
    · cases serves.jobs _ old with
      | background own => exact .background own
      | @asks x timeout ready =>
          refine .asks (passes.ready _ ready fun same => ?_)
          subst same
          have spent : c.Spent (.request x timeout none) := idle _ old
          simp [Spent, Job.isBackground] at spent
      | waits there own => exact .waits there own
      | carries there own errand flying =>
          obtain ⟨due, comes⟩ := clock _ _ flying
          exact .carries there own errand (flying.of_passes passes due comes)
    · exact .background own
  reported := serves.reported.of_passes passes

theorem due_le_arrival {message : Message} {due : Instant}
    (errand : flight.errand settings index = .carried message due) :
    due ≤ flight.arrival settings := by
  rcases errand_cases flight settings index with ⟨_, same, _⟩ | ⟨_, same, arrival⟩
  · rw [same] at errand
    simp at errand
  · rw [same, Job.carried.injEq] at errand
    rw [arrival, ← errand.2]
    exact Instant.le_tick _

/-- **A turn that does not concern the requests** leaves them where they are. -/
theorem Serves.of_turn (serves : c.Serves settings flights) (passes : Passes task c d)
    (now : d.now = c.now) (live : ∃ registered, d.Live registered)
    (idle : ∀ job, (task, job) ∈ c.tasks → c.Spent job) : d.Serves settings flights := by
  refine serves.of_passes passes live (fun index flight flying => ?_)
    (fun index flight answered => now ▸ answered.due) idle
  refine ⟨now ▸ flying.due, fun come => ?_⟩
  rw [now] at come
  refine passes.ready _ (flying.comes come) fun same => ?_
  have spent := idle _ (same ▸ flying.errand)
  rcases errand_cases flight settings index with ⟨_, errand, _⟩ | ⟨_, errand, _⟩
  · simp [errand, Spent, Job.isBackground] at spent
  · rw [errand] at spent
    have later : c.now < flight.due settings := spent
    exact absurd come (Nat.ne_of_lt (Nat.lt_of_lt_of_le later (due_le_arrival errand)))

theorem Passes.trans (first : Passes task c d) (second : Passes task d e)
    (quiet : d.ended = c.ended) : Passes task c e where
  entries := second.entries.trans first.entries
  waits := second.waits.trans first.waits
  handoffs := second.handoffs.trans first.handoffs
  transport := second.transport.trans first.transport
  config := second.config.trans first.config
  lifecycle := second.lifecycle.trans first.lifecycle
  dissolved := second.dissolved.trans first.dissolved
  address := second.address ∘ first.address
  now := Nat.le_trans first.now second.now
  begun := second.begun.trans first.begun
  gone other := second.gone other ∘ first.gone other
  keeps entry inside other := second.keeps entry (first.keeps entry inside other) other
  jobs entry inside := by
    rcases second.jobs entry inside with old | own
    · exact first.jobs entry old
    · exact .inr own
  ready other inside apart := second.ready other (first.ready other inside apart) apart
  ended := by
    rw [← quiet]
    refine second.ended.imp_right ?_
    rintro ⟨last, more, old, there, finished⟩
    refine ⟨last, more, first.begun ▸ old, ?_, finished⟩
    cases before : c.job? last.task with
    | some job => rfl
    | none =>
        rw [first.gone _ before] at there
        simp at there

/-- A move that leaves all alone but who can run. -/
theorem passes_of_same (entries : d.registry.entries = c.registry.entries)
    (waits : d.registry.waits = c.registry.waits) (handoffs : d.handoffs = c.handoffs)
    (transport : d.transport = c.transport) (config : d.config = c.config)
    (lifecycle : d.lifecycle = c.lifecycle) (dissolved : d.dissolved = c.dissolved)
    (address : c.replyAddress.isSome → d.replyAddress.isSome) (now : c.now ≤ d.now)
    (begun : d.begun = c.begun) (tasks : d.tasks = c.tasks)
    (ready : ∀ other ∈ c.ready, other ≠ task → other ∈ d.ready) (ended : d.ended = c.ended) :
    Passes task c d :=
  { entries, waits, handoffs, transport, config, lifecycle, dissolved, address, now, begun, ready
    gone := fun other missing => by rw [job?, tasks]; exact missing
    keeps := fun entry inside _ => tasks ▸ inside
    jobs := fun entry inside => .inl (tasks ▸ inside)
    ended := .inl ended }

theorem passes_called (c : Coordinator) (task : TaskId) : Passes task c (c.called task) :=
  passes_of_same rfl rfl rfl rfl rfl rfl rfl id (Nat.le_refl _) rfl rfl
    (fun _ inside apart => List.mem_filter.mpr ⟨inside, by simpa using apart⟩) rfl

theorem passes_elapse (c : Coordinator) (task : TaskId) (instant : Instant) :
    Passes task c (c.elapse instant) :=
  passes_of_same rfl rfl rfl rfl rfl rfl rfl id (Nat.le_max_left _ _) rfl rfl
    (fun _ inside _ => mem_wake.mpr (.inl inside)) rfl

theorem passes_publish (c : Coordinator) (task : TaskId) (address : String) :
    Passes task c (c.publish address) :=
  passes_of_same rfl rfl rfl rfl rfl rfl rfl (fun _ => rfl) (Nat.le_refl _) rfl rfl
    (fun _ inside _ => mem_wake.mpr (.inl inside)) rfl

/-- A task of the coordinator's own goes on to another of its jobs. -/
theorem passes_park (own : ∀ entry ∈ c.tasks, entry.1 = task → Job.isBackground entry.2 = true)
    (background : Job.isBackground job = true) : Passes task c (c.park task job) where
  entries := rfl
  waits := rfl
  handoffs := rfl
  transport := rfl
  config := rfl
  lifecycle := rfl
  dissolved := rfl
  address := id
  now := Nat.le_refl _
  begun := rfl
  gone other missing := by
    rw [job?_eq_none_iff] at missing ⊢
    intro entry member
    obtain ⟨before, inside, rfl⟩ := List.mem_map.mp member
    split
    · next same => exact same ▸ missing before inside
    · exact missing before inside
  keeps entry inside foreign := by
    refine List.mem_map.mpr ⟨entry, inside, if_neg fun same => ?_⟩
    rw [own entry inside same] at foreign
    simp at foreign
  jobs entry member := by
    obtain ⟨before, inside, rfl⟩ := List.mem_map.mp member
    split
    · exact .inr background
    · exact .inl inside
  ready _ inside _ := inside
  ended := .inl rfl

/-- A task of the coordinator's own ends. -/
theorem passes_finish (orderly : c.Orderly) (inside : (task, job) ∈ c.tasks)
    (background : Job.isBackground job = true) (report : Report) :
    Passes task c (c.finish task report) where
  entries := rfl
  waits := rfl
  handoffs := rfl
  transport := rfl
  config := rfl
  lifecycle := rfl
  dissolved := rfl
  address := id
  now := Nat.le_refl _
  begun := rfl
  gone other missing := by
    rw [job?_eq_none_iff] at missing ⊢
    exact fun entry member => missing entry (mem_finish_tasks.mp member).1
  keeps entry member foreign := by
    refine mem_finish_tasks.mpr ⟨member, fun same => ?_⟩
    have only := List.inj_on_of_nodup_map orderly.distinct member inside same
    rw [only, background] at foreign
    simp at foreign
  jobs entry member := .inl (mem_finish_tasks.mp member).1
  ready other member apart :=
    mem_wake.mpr (.inl (List.mem_filter.mpr ⟨member, by simpa using apart⟩))
  ended := .inr ⟨_, rfl, orderly.begun _ inside,
    Option.isSome_iff_exists.mpr ⟨job, orderly.job?_eq_some_iff.mpr inside⟩,
    c.job?_finish task report⟩

/-- A task does one thing at a time. -/
theorem Orderly.job_eq (orderly : c.Orderly) {again : Job} (member : (task, again) ∈ c.tasks)
    (inside : (task, job) ∈ c.tasks) : again = job :=
  (Prod.mk.inj (List.inj_on_of_nodup_map orderly.distinct member inside rfl)).2

theorem own_of_mem (orderly : c.Orderly) (inside : (task, job) ∈ c.tasks)
    (background : Job.isBackground job = true) :
    ∀ entry ∈ c.tasks, entry.1 = task → Job.isBackground entry.2 = true := by
  rintro ⟨number, again⟩ member rfl
  rw [orderly.job_eq member inside]
  exact background

/-- A sweep that finds no deadline passed does nothing. -/
theorem sweepAt_eq_self {instant : Instant}
    (young : ∀ entry ∈ c.registry.entries, instant < entry.deadline) (counting : Bool) :
    (c.sweepAt instant counting).1 = c := by
  have expired : c.registry.entries.filter (fun entry => decide (entry.deadline ≤ instant)) = [] :=
    List.filter_eq_nil_iff.mpr fun entry inside => by
      simpa using young entry inside
  have kept : c.registry.entries.filter (fun entry => !decide (entry.deadline ≤ instant)) =
      c.registry.entries :=
    List.filter_eq_self.mpr fun entry inside => by
      simpa using young entry inside
  have sweeps : c.registry.sweep instant = (c.registry, []) := by
    simp [Registry.sweep, List.partition_eq_filter_filter, Function.comp_def, expired, kept]
  simp [sweepAt, sweeps]

theorem passes_runSweeper (orderly : c.Orderly) {next : Option Instant}
    (inside : (task, .sweep next) ∈ c.tasks)
    (young : ∀ entry ∈ c.registry.entries, c.now < entry.deadline) :
    Passes task c (c.runSweeper task next) := by
  have own := own_of_mem orderly inside rfl
  cases next with
  | none =>
      simp only [runSweeper]
      split
      · exact passes_finish orderly inside rfl _
      · split
        · exact passes_finish orderly inside rfl _
        · exact passes_park own rfl
  | some next =>
      simp only [runSweeper]
      split
      · rw [sweepAt_eq_self young]
        split
        · exact passes_finish orderly inside rfl _
        · exact passes_park own rfl
      · split
        · exact passes_finish orderly inside rfl _
        · exact passes_of_same rfl rfl rfl rfl rfl rfl rfl id (Nat.le_refl _) rfl rfl
            (fun _ member _ => member) rfl

theorem passes_runResolver (orderly : c.Orderly) {due : Option Instant}
    (inside : (task, .resolve due) ∈ c.tasks) : Passes task c (c.runResolver task due) := by
  unfold runResolver
  generalize c.transport.resolution = resolution
  obtain ⟨time, found⟩ := resolution
  simp only
  split
  · cases found with
    | error failure => exact passes_finish orderly inside rfl _
    | ok address =>
        simp only
        split
        · exact passes_finish orderly inside rfl _
        · have still : (c.publish address).Orderly :=
            ⟨orderly.distinct, orderly.begun, orderly.live⟩
          exact (c.passes_publish task address).trans (passes_finish still inside rfl _) rfl
  · split
    · exact passes_finish orderly inside rfl _
    · exact passes_park (own_of_mem orderly inside rfl) rfl

/-! ## Time and new requests -/

theorem Serves.orderly (serves : c.Serves settings flights) : c.Orderly := by
  obtain ⟨_, live⟩ := serves.live
  exact live.attentive.orderly

theorem Serves.step_live (serves : c.Serves settings flights) {choice : Choice}
    (goesOn : choice.isLive) : ∃ registered, (c.step choice).Live registered := by
  obtain ⟨_, live⟩ := serves.live
  exact ⟨_, live.step goesOn⟩

/-- A flight whose errand is under way has a timer for its arrival. -/
theorem Flying.timer (flying : c.Flying settings index flight) (asleep : c.ready = []) :
    (flight.arrival settings, flight.carrier) ∈ c.timers := by
  have inside := flying.errand
  rcases errand_cases flight settings index with ⟨_, _, atOnce⟩ | ⟨_, errand, arrival⟩
  · have now : c.now = flight.arrival settings :=
      Nat.le_antisymm flying.due (atOnce ▸ flying.since)
    exact absurd (asleep ▸ flying.comes now) List.not_mem_nil
  · rw [errand] at inside
    exact List.mem_filterMap.mpr ⟨_, inside, by rw [arrival]; rfl⟩

/-- **Time passes** until no timer is left behind. -/
theorem Serves.elapse (serves : c.Serves settings flights) {instant : Instant}
    (rests : c.Rests instant) : (c.elapse instant).Serves settings flights := by
  refine serves.of_passes (c.passes_elapse c.begun instant)
    (serves.step_live (show (Choice.elapse instant).isLive from rfl)) ?_ ?_ ?_
  · intro index flight flying
    have timer := flying.timer rests.ready
    have first := rests.timers _ timer
    exact ⟨Nat.max_le.mpr ⟨flying.due, first⟩,
      fun now => ready_elapse timer (Nat.le_of_eq now.symm)⟩
  · intro index flight answered
    exact absurd (rests.ready ▸ answered.ready) List.not_mem_nil
  · exact fun job inside => absurd (serves.orderly.begun _ inside) (Nat.lt_irrefl _)

/-- **A request is issued.** -/
theorem Serves.spawn (serves : c.Serves settings flights) (x : Exchange) (timeout : Duration) :
    (c.step (.spawn (.request x timeout none))).Serves settings flights := by
  let d := c.step (.spawn (.request x timeout none))
  have keeps : ∀ entry ∈ c.tasks, entry ∈ d.tasks := fun _ inside => List.mem_append_left _ inside
  have ready : ∀ other ∈ c.ready, other ∈ d.ready := fun _ inside => List.mem_append_left _ inside
  have gone : ∀ other, other < c.begun → c.job? other = none → d.job? other = none := by
    intro other old missing
    rw [job?_eq_none_iff] at missing ⊢
    intro entry member
    rcases List.mem_append.mp member with before | new
    · exact missing entry before
    · rw [List.mem_singleton.mp new]
      exact (Nat.ne_of_lt old).symm
  have flies : ∀ index flight, c.Flying settings index flight →
      d.Flying settings index flight := fun index flight flying =>
    flying.keep flying.entry rfl (fun entry inside _ => keeps entry inside) (Nat.le_refl _)
      flying.due fun now => ready _ (flying.comes now)
  refine ⟨serves.step_live rfl, ?_, serves.size, serves.log, serves.assigned, serves.carriers, ?_,
    serves.answerable, ?_, ?_, ?_, ?_⟩
  · have serving := serves.serving
    exact ⟨serving.line, serving.listening, serving.dissolved, serving.running, serving.address,
      serving.faults, serving.waits⟩
  · intro flight member
    have before := serves.begun flight member
    exact ⟨Nat.lt_succ_of_lt before.1, Nat.lt_succ_of_lt before.2⟩
  · intro index flight there
    rcases serves.stages index flight there with flying | answered | returned
    · exact .inl (flies index flight flying)
    · exact .inr (.inl (answered.keep rfl (fun entry inside _ => keeps entry inside)
        (ready _ answered.ready) rfl))
    · have old := (serves.begun flight (List.mem_of_getElem? there)).1
      exact .inr (.inr (returned.keep (fun _ inside => inside) (fun _ inside => .inl inside)
        (gone _ old returned.gone)))
  · intro entry inside
    obtain ⟨index, flight, there, same, flying⟩ := serves.entries entry inside
    exact ⟨index, flight, there, same, flies index flight flying⟩
  · rintro ⟨number, job⟩ inside
    rcases List.mem_append.mp inside with old | new
    · cases serves.jobs _ old with
      | background own => exact .background own
      | asks can => exact .asks (ready _ can)
      | waits there own => exact .waits there own
      | carries there own errand flying => exact .carries there own errand (flies _ _ flying)
    · cases List.mem_singleton.mp new
      exact .asks (List.mem_append_right _ (List.mem_singleton.mpr rfl))
  · exact serves.reported.keep rfl (Nat.le_succ _) gone

end Coordinator

end Mediation
