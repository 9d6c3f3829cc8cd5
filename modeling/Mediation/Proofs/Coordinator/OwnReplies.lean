import Mathlib.Tactic.IntervalCases
import Mediation.Proofs.Coordinator.Completion

/-!
# Concurrent requests each get their own reply

A coordinator that has been started over a loopback and knows the reply address is asked any number
of requests, in any order, overlapping in any way (`Conversation`). Each is sent once, and its
requester returns with the reply to it, under the id that it was sent under itself, and with nothing
else (`requests_answered`). Nothing is asked of the ids that are brought along where the transport
assigns ids, but that none is one of those; where it assigns none, no request may be sent under the
id of one that has not returned.

A timeout that is only just longer than the latency is not enough: timers fire at whole
milliseconds, and the sweeper may come before the reply (`sweep_overtakes`).
-/

set_option autoImplicit false

namespace Mediation.Coordinator

variable {c : Coordinator} {settings : Loopback} {flight : Flight} {flights : List Flight}
  {issues : List Issue}

/-! ## Answers -/

/-- What has become of the requests that were issued. -/
structure Answers (c : Coordinator) (settings : Loopback) (issues : List Issue)
    (flights : List Flight) : Prop where
  /-- A request that was issued can take its first turn, or was sent. -/
  sent : ∀ issue ∈ issues, (c.job? issue.1 = some issue.job ∧ issue.1 ∈ c.ready) ∨
    ∃ flight ∈ flights, flight.issue = issue
  /-- Nothing else was sent. -/
  asked : ∀ flight ∈ flights, flight.issue ∈ issues
  /-- No request was sent twice. -/
  once : (flights.map (·.task)).Nodup
  /-- The transport has one record of each, in the order in which they were sent. -/
  log : c.transport.sent = flights.mapIdx fun index flight => flight.record settings index
  /-- A request that was sent waits for its reply until that comes, or has returned. -/
  waits : ∀ index flight, flights[index]? = some flight →
    (c.Flying settings index flight ∨ c.Answered settings index flight) ∧
      c.now ≤ flight.arrival settings ∨ c.Returned settings flight
  /-- It returns with its own reply only, -/
  own : ∀ flight ∈ flights, ∀ ended ∈ c.ended, ended.task = flight.task →
    ended.report = .returned (flight.answer settings)
  /-- and once. -/
  reported : c.Reported
  /-- When no task can run, it has returned, or the clock will stop when its reply comes. -/
  rests : c.ready = [] → ∀ flight ∈ flights, c.Returned settings flight ∨
    c.now < flight.arrival settings ∧ (flight.arrival settings, flight.carrier) ∈ c.timers
  /-- When no task can run and all replies have come, all requests have returned. -/
  complete : c.ready = [] → (∀ flight ∈ flights, flight.arrival settings ≤ c.now) →
    ∀ issue ∈ issues, ∃ flight ∈ flights, flight.issue = issue ∧ c.Returned settings flight
  /-- Once they have returned, none is pending. -/
  pending : (∀ flight ∈ flights, c.Returned settings flight) → c.pending = 0

/-- What the task of a request has ended with is its own reply. -/
theorem Serves.own_report (serves : c.Serves settings flights) (member : flight ∈ flights)
    {ended : Ended} (inside : ended ∈ c.ended) (same : ended.task = flight.task) :
    ended.report = .returned (flight.answer settings) := by
  obtain ⟨index, there⟩ := List.getElem?_of_mem member
  have missing := (serves.reported.finished ended inside).2
  rw [same, job?_eq_none_iff] at missing
  rcases serves.stages index flight there with flying | answered | returned
  · exact absurd rfl (missing _ flying.waits)
  · exact absurd rfl (missing _ answered.waits)
  · exact returned.only ended inside same

theorem Serves.pending_eq_zero (serves : c.Serves settings flights)
    (returned : ∀ flight ∈ flights, c.Returned settings flight) : c.pending = 0 := by
  have none_left : c.registry.entries = [] := by
    refine List.eq_nil_iff_forall_not_mem.mpr fun entry inside => ?_
    obtain ⟨index, flight, there, _, flying⟩ := serves.entries entry inside
    have gone := (returned flight (List.mem_of_getElem? there)).gone
    exact job?_eq_none_iff.mp gone _ flying.waits rfl
  exact congrArg List.length none_left

theorem Converses.answers (converses : c.Converses settings issues flights) :
    c.Answers settings issues flights := by
  have serves := converses.serves
  have sent : ∀ issue ∈ issues, (c.job? issue.1 = some issue.job ∧ issue.1 ∈ c.ready) ∨
      ∃ flight ∈ flights, flight.issue = issue := fun issue member =>
    (converses.kept issue member).imp_left fun inside => by
      refine ⟨serves.orderly.job?_eq_some_iff.mpr inside, ?_⟩
      cases serves.jobs _ inside with
      | background own => simp [Issue.job, Job.isBackground] at own
      | asks ready => exact ready
      | carries there own errand flying => exact absurd errand (errand_ne_request _ _ _ _ _ _)
  exact {
    sent
    asked := converses.known
    once := converses.once
    log := serves.log
    waits := fun index flight there => by
      rcases serves.stages index flight there with flying | answered | returned
      · exact .inl ⟨.inl flying, flying.due⟩
      · exact .inl ⟨.inr answered, answered.due⟩
      · exact .inr returned
    own := fun flight member ended inside same => serves.own_report member inside same
    reported := serves.reported
    rests := fun asleep flight member => serves.rests asleep member
    complete := fun asleep come issue member => by
      rcases sent issue member with ⟨_, ready⟩ | ⟨flight, listed, same⟩
      · rw [asleep] at ready
        simp at ready
      · refine ⟨flight, listed, same, ?_⟩
        exact (serves.rests asleep listed).resolve_right fun later =>
          Nat.not_lt.mpr (come flight listed) later.1
    pending := serves.pending_eq_zero
  }

/-- What becomes of the requests of a run. -/
structure AnswersEach (c : Coordinator) (settings : Loopback) (choices : List Choice) : Prop where
  answers : ∀ n, (c.before choices n).Answers settings (c.issued (choices.take n))
    (c.flights (choices.take n))
  /-- Tasks do not keep each other running. -/
  settles : ∀ n m, n ≤ m → c.Busy choices n m → m ≤ n + (c.before choices n).work
  /-- When all requests issued so far have been sent, they all return if only tasks go on taking
  turns and time goes on passing. -/
  completes : ∀ n, (∀ issue ∈ c.issued (choices.take n),
      ∃ flight ∈ c.flights (choices.take n), flight.issue = issue) →
    ∃ more, (∀ choice ∈ more, choice.passes) ∧ (c.before choices n).Prompt more ∧
      (∀ flight ∈ c.flights (choices.take n),
        ((c.before choices n).run more).Returned settings flight) ∧
      ((c.before choices n).run more).pending = 0

theorem exists_horizon (settings : Loopback) (flights : List Flight) :
    ∃ horizon, ∀ flight ∈ flights, flight.arrival settings ≤ horizon := by
  induction flights with
  | nil => exact ⟨0, by simp⟩
  | cons flight rest ih =>
      obtain ⟨horizon, bound⟩ := ih
      refine ⟨max (flight.arrival settings) horizon, fun other member => ?_⟩
      rcases List.mem_cons.mp member with rfl | later
      · exact Nat.le_max_left _ _
      · exact Nat.le_trans (bound other later) (Nat.le_max_right _ _)

theorem Converses.completes (converses : c.Converses settings issues flights)
    (replies : settings.Replies)
    (sent : ∀ issue ∈ issues, ∃ flight ∈ flights, flight.issue = issue) :
    ∃ more, (∀ choice ∈ more, choice.passes) ∧ c.Prompt more ∧
      (∀ flight ∈ flights, (c.run more).Returned settings flight) ∧ (c.run more).pending = 0 := by
  have serves := converses.serves
  have concludes : c.Concludes settings flights := by
    refine ⟨serves, converses.timely, fun issue inside => ?_⟩
    obtain ⟨flight, member, rfl⟩ := sent issue (converses.asked issue inside)
    exact serves.not_sent inside flight member rfl
  obtain ⟨horizon, bound⟩ := exists_horizon settings flights
  obtain ⟨more, reaches, back⟩ := concludes.completes replies bound
  exact ⟨more, reaches.events, reaches.prompt, back,
    reaches.concludes.serves.pending_eq_zero back⟩

/-- **Concurrent requests each get their own reply.** Whatever requests are issued to a coordinator
that runs over a loopback and knows the reply address, however they overlap and in whatever order
tasks take their turns: each is sent once, and returns with its own reply under its own id when that
comes. -/
theorem requests_answered (config : CoordinatorConfig) (settings : Loopback)
    (naming : Nat → String) (opening choices : List Choice)
    (faults : config.transferFaults = false) (replies : settings.Replies)
    (opens : ∀ choice ∈ opening, choice.isOpening)
    (opened : (create config (Transport.ofLine (.loopback settings)) naming).run opening = c)
    (running : c.lifecycle.runAllowed = true) (address : c.replyAddress.isSome)
    (conversation : c.Conversation settings choices) : c.AnswersEach settings choices := by
  have unasked : c.Unasked settings := by
    rw [← opened]
    exact (unasked_create config settings naming faults).run opens
  have converses := conversation.converses replies unasked running address
  refine ⟨fun n => (converses n).answers, fun n m later busy => ?_,
    fun n sent => (converses n).completes replies sent⟩
  exact Nat.le_trans (Nat.le_add_left _ _) (conversation.settles replies converses later busy)

/-! ## Timeouts that are long enough -/

/-- A timeout that is a millisecond longer than the latency is long enough. -/
theorem early_of_longer
    (longer : settings.replyLatency.totalNanos + 1000000 ≤ flight.timeout.totalNanos) :
    flight.arrival settings < flight.instant.plus flight.timeout := by
  have limit : flight.instant + settings.replyLatency.totalNanos + 1000000 ≤
      flight.instant.plus flight.timeout := by
    rw [Nat.add_assoc]
    exact Nat.add_le_add_left longer flight.instant
  refine Nat.lt_of_lt_of_le ?_ limit
  rcases errand_cases flight settings 0 with ⟨_, _, arrival⟩ | ⟨_, _, arrival⟩
  · rw [arrival, Nat.add_assoc]
    exact Nat.lt_add_of_pos_right (Nat.succ_pos _)
  · rw [arrival]
    exact Nat.lt_of_lt_of_le (Instant.tick_lt _)
      (Nat.add_le_add_right (flight.instant.wakeUp_le settings.replyLatency) _)

/-! ## Runs -/

/-- A loopback that assigns ids and takes two milliseconds. -/
def assigning : Loopback :=
  { Loopback.standard with assignIds := true, replyLatency := Duration.ofMillis 2 }

/-- The coordinator is started, and its own tasks take their first turns. -/
def opening : List Choice := [.start, .turn 0, .turn 1]

/-- A coordinator over a loopback, ready for requests. -/
def atWork (config : CoordinatorConfig) (settings : Loopback) : Coordinator :=
  (create config (Transport.ofLine (.loopback settings)) fun _ => "made").run opening

/-- A request under "z". -/
def askUnderZ (body : String) (timeout : Duration) : Choice :=
  .spawn (.request
    (.receive body ((Message.ofBody (.text body)).withHeader Message.correlationHeader "z"))
    timeout none)

/-- A second request brings the id of one that is under way. -/
def twoAlike : List Choice :=
  [askUnderZ "first" (Duration.ofMillis 4), .turn 2, .elapse 1000000,
   askUnderZ "second" (Duration.ofMillis 3), .turn 4, .elapse 2000000, .turn 3, .turn 2,
   .elapse 3000000, .turn 5, .turn 4]

/-- Both requests return, each with its own reply. -/
theorem requests_answered_twoAlike :
    (atWork default assigning).Conversation assigning twoAlike ∧
      ((atWork default assigning).flights twoAlike).map (·.id) = ["z", "z"] ∧
      ∀ issue ∈ (atWork default assigning).issued twoAlike,
        ∃ flight ∈ (atWork default assigning).flights twoAlike, flight.issue = issue ∧
          ((atWork default assigning).run twoAlike).Returned assigning flight := by
  have conversation : (atWork default assigning).Conversation assigning twoAlike := by
    refine ⟨by decide, ?_, ?_, ?_, ?_⟩
    · intro n instant there
      have only : (n = 2 ∧ instant = 1000000) ∨ (n = 5 ∧ instant = 2000000) ∨
          n = 8 ∧ instant = 3000000 := by
        have bound := (List.getElem?_eq_some_iff.mp there).1
        change n < 11 at bound
        interval_cases n <;> simp [twoAlike, askUnderZ, eq_comm] at there ⊢ <;> exact there
      obtain ⟨rfl, rfl⟩ | ⟨rfl, rfl⟩ | ⟨rfl, rfl⟩ := only <;>
        exact ⟨by decide +kernel, by decide +kernel⟩
    · have each : ∀ flight ∈ (atWork default assigning).flights twoAlike,
          (flight.instant.after? flight.timeout).isSome = true ∧
            assigning.replyLatency.totalNanos + 1000000 ≤ flight.timeout.totalNanos ∧
            flight.id ≠ "" := by decide +kernel
      intro flight member
      obtain ⟨fits, longer, named⟩ := each flight member
      exact ⟨fits, early_of_longer longer, named⟩
    · intro _
      decide +kernel
    · intro none_assigned
      exact absurd none_assigned (by decide)
  refine ⟨conversation, by decide +kernel, ?_⟩
  have answers := (requests_answered default assigning (fun _ => "made") opening twoAlike rfl
    ⟨rfl, rfl⟩ (by decide) rfl (by decide +kernel) (by decide +kernel) conversation).answers 11
  exact answers.complete (by decide +kernel) (by decide +kernel)

/-- A loopback that takes half a millisecond. -/
def halfMilli : Loopback :=
  { Loopback.standard with replyLatency := Duration.ofNanos 500000 }

/-- A coordinator that sweeps every ten milliseconds. -/
def sweepsOften : CoordinatorConfig :=
  { (default : CoordinatorConfig) with sweepInterval := Duration.ofMillis 10 }

/-- A millisecond before a sweep a request is sent whose reply and whose deadline come less than a
millisecond later. -/
def overtaken : List Choice :=
  [.elapse 9000000, askUnderZ "b" (Duration.ofNanos 700000), .turn 2, .elapse 10000000, .turn 1,
   .turn 2]

/-- A timeout that is longer than the latency is not enough: the reply comes at the next whole
millisecond, when the deadline has passed, and the sweeper can run before. -/
theorem sweep_overtakes :
    (atWork sweepsOften halfMilli).lifecycle.runAllowed = true ∧
      (atWork sweepsOften halfMilli).replyAddress.isSome = true ∧
      (∀ choice ∈ overtaken, choice.converses) ∧
      (atWork sweepsOften halfMilli).Prompt overtaken ∧
      (∀ flight ∈ (atWork sweepsOften halfMilli).flights overtaken,
        halfMilli.replyLatency < flight.timeout ∧
          (flight.instant.after? flight.timeout).isSome = true ∧ flight.id ≠ "") ∧
      (∃ flight, (atWork sweepsOften halfMilli).flights overtaken = [flight] ∧
        ⟨flight.task, 10000000, .returned (flight.exchange.withFailure
          (.timeout flight.id flight.timeout))⟩ ∈
            ((atWork sweepsOften halfMilli).run overtaken).ended) ∧
      ¬ (atWork sweepsOften halfMilli).AnswersEach halfMilli overtaken := by
  have late : ∃ flight, (atWork sweepsOften halfMilli).flights overtaken = [flight] ∧
      ⟨flight.task, 10000000, .returned (flight.exchange.withFailure
        (.timeout flight.id flight.timeout))⟩ ∈
          ((atWork sweepsOften halfMilli).run overtaken).ended := ⟨_, rfl, .head _⟩
  refine ⟨by decide +kernel, by decide +kernel, by decide, ?_, by decide +kernel, late, ?_⟩
  · intro n instant there
    have only : (n = 0 ∧ instant = 9000000) ∨ n = 3 ∧ instant = 10000000 := by
      have bound := (List.getElem?_eq_some_iff.mp there).1
      change n < 6 at bound
      interval_cases n <;> simp [overtaken, askUnderZ, eq_comm] at there ⊢ <;> exact there
    obtain ⟨rfl, rfl⟩ | ⟨rfl, rfl⟩ := only <;>
      exact ⟨by decide +kernel, by decide +kernel⟩
  · intro answers
    obtain ⟨flight, only, inside⟩ := late
    have member : flight ∈ (atWork sweepsOften halfMilli).flights overtaken := by
      rw [only]
      exact List.mem_singleton_self _
    -- the answer to a request that brings no failure has none
    have unfailed : flight.exchange.failure = none := by
      have all : ∀ flight ∈ (atWork sweepsOften halfMilli).flights overtaken,
          flight.exchange.failure = none := by decide +kernel
      exact all flight member
    have own := (answers.answers 6).own flight member _ inside rfl
    have same := congrArg Exchange.failure (Report.returned.inj own)
    change some _ = flight.exchange.failure at same
    rw [unfailed] at same
    simp at same

end Mediation.Coordinator
