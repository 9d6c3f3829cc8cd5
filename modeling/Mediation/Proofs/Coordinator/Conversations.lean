import Mediation.Proofs.Coordinator.Openings
import Mediation.Proofs.Coordinator.Settling

/-!
# Conversations

In a conversation requests are issued to a coordinator that runs over a loopback and knows the reply
address (`Conversation`). All through it the requests issued so far wait for their first turns or are
flights, each once, and the flights are served (`Converses`, `Conversation.converses`). Tasks that
can run do so only so many times before none can (`Conversation.settles`).
-/

set_option autoImplicit false

namespace Mediation

/-- A request as it was issued: its task, its exchange and its timeout. -/
abbrev Issue := TaskId × Exchange × Duration

def Issue.job (issue : Issue) : Job := .request issue.2.1 issue.2.2 none

def Flight.issue (flight : Flight) : Issue := (flight.task, flight.exchange, flight.timeout)

namespace Coordinator

variable {c d : Coordinator} {task : TaskId} {settings : Loopback} {index n m : Nat}
  {flight : Flight} {flights : List Flight} {issues : List Issue} {choice : Choice}
  {choices : List Choice}

/-! ## Conversations -/

/-- The events of a conversation: requests are issued, tasks take turns, and time passes. -/
def Choice.converses : Choice → Bool
  | .spawn (.request _ _ none) => true
  | choice => choice.isOpening

/-- The request that an event issues. -/
def issue? (c : Coordinator) : Choice → Option Issue
  | .spawn (.request x timeout none) => some (c.begun, x, timeout)
  | _ => none

/-- The requests that a run issues. -/
def issued (c : Coordinator) (choices : List Choice) : List Issue := brought issue? c choices

/-- Requests are issued over a loopback that can answer each in time, under ids that tell them
apart. -/
structure Conversation (c : Coordinator) (settings : Loopback) (choices : List Choice) :
    Prop where
  events : ∀ choice ∈ choices, choice.converses
  prompt : c.Prompt choices
  answerable : ∀ flight ∈ c.flights choices, flight.Answerable settings
  /-- No request brings an id that the transport assigns. -/
  assigned : settings.assignIds = true → ∀ flight ∈ c.flights choices,
    ∀ index < (c.flights choices).length, flight.id ≠ Loopback.assignedId index
  /-- Where it assigns none, no request is sent under the id of one that has not returned. -/
  apart : settings.assignIds = false → ∀ n choice flight, choices[n]? = some choice →
    (c.before choices n).launch? choice = some flight →
    ∀ other ∈ c.flights (choices.take n), ((c.before choices n).job? other.task).isSome →
      other.id ≠ flight.id

/-- The requests issued so far wait for their first turns or are flights, each once, and the
flights are served. -/
structure Converses (c : Coordinator) (settings : Loopback) (issues : List Issue)
    (flights : List Flight) : Prop where
  serves : c.Serves settings flights
  kept : ∀ issue ∈ issues, (issue.1, issue.job) ∈ c.tasks ∨ ∃ flight ∈ flights, flight.issue = issue
  asked : ∀ issue : Issue, (issue.1, issue.job) ∈ c.tasks → issue ∈ issues
  known : ∀ flight ∈ flights, flight.issue ∈ issues
  once : (flights.map (·.task)).Nodup
  timely : c.Timely

theorem Turned.request_mem (turned : c.Turned settings flights task d)
    (serves : c.Serves settings flights) {issue : Issue} (member : (issue.1, issue.job) ∈ d.tasks) :
    (issue.1, issue.job) ∈ c.tasks := by
  cases turned with
  | idle launches spent => exact member
  | background launches inside own =>
      have passes := passes_background serves.orderly inside own serves.young
      rcases passes.jobs _ member with old | background
      · exact old
      · simp [Issue.job, Job.isBackground] at background
  | launched launches inside own carrier instant launched =>
      subst own
      rcases launched.task_cases member with ⟨old, _⟩ | requester | bringer
      · exact old
      · simp [Issue.job] at requester
      · exact absurd (Prod.mk.inj bringer).2.symm (errand_ne_request _ _ _ _ _ _)
  | delivered launches there own flying => exact (mem_finish_tasks.mp member).1
  | returned launches there own answered => exact (mem_finish_tasks.mp member).1

theorem Turned.launches (turned : c.Turned settings flights task d)
    (launches : c.launch? (.turn task) = some flight) :
    (flight.issue.1, flight.issue.job) ∈ c.tasks := by
  cases turned with
  | launched launchesToo inside own carrier instant launched =>
      rw [launches, Option.some_inj] at launchesToo
      subst launchesToo own
      exact inside
  | _ => simp_all

/-- A request that waits for its first turn is no flight yet. -/
theorem Serves.not_sent (serves : c.Serves settings flights) {issue : Issue}
    (inside : (issue.1, issue.job) ∈ c.tasks) : ∀ other ∈ flights, other.task ≠ issue.1 := by
  intro other member same
  obtain ⟨index, there⟩ := List.getElem?_of_mem member
  rw [← same] at inside
  rcases serves.stages index other there with flying | answered | returned
  · exact absurd (serves.orderly.job_eq flying.waits inside) (by simp [Issue.job])
  · exact absurd (serves.orderly.job_eq answered.waits inside) (by simp [Issue.job])
  · exact job?_eq_none_iff.mp returned.gone _ inside rfl

/-- **A turn** in a conversation. -/
theorem Converses.turn (converses : c.Converses settings issues flights)
    (replies : settings.Replies) (task : TaskId)
    (admits : ∀ flight, c.launch? (.turn task) = some flight →
      c.Admits settings flights flight) :
    (c.turn task).Converses settings issues (flights ++ (c.launch? (.turn task)).toList) := by
  have serves := converses.serves
  have turned := serves.turn_cases replies task admits
  obtain ⟨_, alive⟩ := serves.live
  refine ⟨serves.turn replies task admits, ?_, ?_, ?_, ?_, turned.timely serves converses.timely⟩
  · intro issue member
    rcases converses.kept issue member with inside | ⟨flight, sent, same⟩
    · by_cases own : issue.1 = task
      · obtain ⟨replyTo, known⟩ := Option.isSome_iff_exists.mp serves.serving.address
        have standing := serves.orderly.job?_eq_some_iff.mpr (own ▸ inside)
        rw [launch?_eq_some standing known, Option.toList_some]
        refine .inr ⟨_, List.mem_append_right _ (List.mem_singleton_self _), ?_⟩
        rw [← own]
        rfl
      · exact .inl ((alive.attentive.turn_cases alive.sound task).1.stands _ inside own)
    · exact .inr ⟨flight, List.mem_append_left _ sent, same⟩
  · exact fun issue member => converses.asked issue (turned.request_mem serves member)
  · intro flight member
    rcases List.mem_append.mp member with old | new
    · exact converses.known flight old
    · exact converses.asked _ (turned.launches (Option.mem_toList.mp new))
  · rw [List.map_append, List.nodup_append]
    cases launches : c.launch? (.turn task) with
    | none => exact ⟨converses.once, List.nodup_nil, by simp⟩
    | some flight =>
        refine ⟨converses.once, List.nodup_singleton _, fun old earlier new single => ?_⟩
        obtain ⟨other, sent, rfl⟩ := List.mem_map.mp earlier
        rw [List.mem_singleton.mp single]
        exact serves.not_sent (turned.launches launches) other sent

/-- **A request is issued** in a conversation. -/
theorem Converses.spawn (converses : c.Converses settings issues flights) (x : Exchange)
    (timeout : Duration) :
    (c.step (.spawn (.request x timeout none))).Converses settings
      (issues ++ [(c.begun, x, timeout)]) flights := by
  refine ⟨converses.serves.spawn x timeout, ?_, ?_, ?_, converses.once, ?_⟩
  · intro issue member
    rcases List.mem_append.mp member with old | new
    · exact (converses.kept issue old).imp_left fun inside => List.mem_append_left _ inside
    · rw [List.mem_singleton.mp new]
      exact .inl (List.mem_append_right _ (List.mem_singleton_self _))
  · intro issue inside
    rcases List.mem_append.mp inside with old | new
    · exact List.mem_append_left _ (converses.asked issue old)
    · obtain ⟨number, y, time⟩ := issue
      cases List.mem_singleton.mp new
      exact List.mem_append_right _ (List.mem_singleton_self _)
  · exact fun flight member => List.mem_append_left _ (converses.known flight member)
  · refine converses.timely.grow converses.serves.orderly rfl rfl rfl (fun entry inside => ?_)
      fun other can => List.mem_append_left _ can
    refine (List.mem_append.mp inside).imp_right fun new => ?_
    rw [List.mem_singleton.mp new]
    exact later_of_idle rfl

theorem Converses.of_same (converses : c.Converses settings issues flights)
    (serves : d.Serves settings flights) (timely : d.Timely) (tasks : d.tasks = c.tasks) :
    d.Converses settings issues flights :=
  ⟨serves, tasks ▸ converses.kept, tasks ▸ converses.asked, converses.known, converses.once, timely⟩

/-- A coordinator that runs cannot be started. -/
theorem step_start_of_running (running : c.lifecycle.runAllowed = true) : c.step .start = c := by
  have refused : ∃ refusal, c.lifecycle.start = .error refusal := by
    unfold Lifecycle.runAllowed at running
    cases phase : c.lifecycle.phase <;>
      simp [phase, Phase.runAllowed, Lifecycle.start, Lifecycle.beginStart] at running ⊢
  obtain ⟨refusal, refuses⟩ := refused
  simp [step, start, refuses]

/-- **Every event** keeps the conversation going. -/
theorem Converses.step (converses : c.Converses settings issues flights)
    (replies : settings.Replies) (event : choice.converses)
    (rests : ∀ instant, choice = .elapse instant → c.Rests instant)
    (admits : ∀ flight, c.launch? choice = some flight → c.Admits settings flights flight) :
    (c.step choice).Converses settings (issues ++ (c.issue? choice).toList)
      (flights ++ (c.launch? choice).toList) := by
  have serves := converses.serves
  cases choice with
  | turn task =>
      have turned := converses.turn replies task admits
      rwa [← List.append_nil issues] at turned
  | spawn job =>
      cases job with
      | request x timeout waiting =>
          cases waiting with
          | none =>
              have spawned := converses.spawn x timeout
              rwa [← List.append_nil flights] at spawned
          | some instant => simp [Choice.converses, Choice.isOpening] at event
      | _ => simp [Choice.converses, Choice.isOpening] at event
  | start =>
      rw [step_start_of_running serves.serving.running]
      simpa [launch?, issue?] using converses
  | publish address =>
      have live := serves.step_live (show (Choice.publish address).isLive from rfl)
      have still := serves.of_turn (c.passes_publish c.begun address) rfl live fun job inside =>
        absurd (serves.orderly.begun _ inside) (Nat.lt_irrefl _)
      have same : (c.step (.publish address)).Converses settings issues flights :=
        converses.of_same still (converses.timely.publish serves.orderly address) rfl
      simpa [launch?, issue?] using same
  | elapse instant =>
      have same : (c.step (.elapse instant)).Converses settings issues flights :=
        converses.of_same (serves.elapse (rests instant rfl)) (converses.timely.elapse instant) rfl
      simpa [launch?, issue?] using same
  | _ => simp [Choice.converses, Choice.isOpening] at event

theorem Conversation.admits (conversation : c.Conversation settings choices)
    (there : choices[n]? = some choice)
    (launches : (c.before choices n).launch? choice = some flight) :
    (c.before choices n).Admits settings (c.flights (choices.take n)) flight := by
  have member : flight ∈ c.flights choices := mem_brought launch? there launches
  refine ⟨conversation.answerable flight member, fun assigns index bound => ?_, fun assigns =>
    conversation.apart assigns n choice flight there launches⟩
  refine conversation.assigned assigns flight member index ?_
  have longer : (c.flights (choices.take (n + 1))).length =
      (c.flights (choices.take n)).length + 1 := by
    rw [flights, brought_take_succ launch? there, launches]
    exact List.length_append
  have whole : (c.flights (choices.take (n + 1))).length ≤ (c.flights choices).length :=
    length_brought_take_le launch? (n + 1) choices
  omega

/-- **All through the run** the requests are served. -/
theorem Conversation.converses (conversation : c.Conversation settings choices)
    (replies : settings.Replies) (unasked : c.Unasked settings)
    (running : c.lifecycle.runAllowed = true) (address : c.replyAddress.isSome) (n : Nat) :
    (c.before choices n).Converses settings (c.issued (choices.take n))
      (c.flights (choices.take n)) := by
  induction n with
  | zero =>
      refine ⟨unasked.serves running address, by simp [issued, brought], fun issue inside => ?_,
        by simp [flights, brought], List.nodup_nil, unasked.timely⟩
      have background := unasked.own _ inside
      simp [Issue.job, Job.isBackground] at background
  | succ n ih =>
      cases there : choices[n]? with
      | none =>
          rw [before_succ_of_none there, List.take_add_one, there, Option.toList_none,
            List.append_nil]
          exact ih
      | some choice =>
          rw [before_succ there, issued, flights, brought_take_succ issue? there,
            brought_take_succ launch? there]
          exact ih.step replies (conversation.events choice (List.mem_of_getElem? there))
            (fun instant same => conversation.prompt n instant (same ▸ there))
            fun flight launches => conversation.admits there launches

/-- A segment of a run in which tasks take turns that can run. -/
def Busy (c : Coordinator) (choices : List Choice) (n m : Nat) : Prop :=
  ∀ k, n ≤ k → k < m →
    ∃ task, choices[k]? = some (.turn task) ∧ task ∈ (c.before choices k).ready

/-- **Tasks do not keep each other running.** -/
theorem Conversation.settles (conversation : c.Conversation settings choices)
    (replies : settings.Replies)
    (converses : ∀ n, (c.before choices n).Converses settings (c.issued (choices.take n))
      (c.flights (choices.take n)))
    (later : n ≤ m) (busy : c.Busy choices n m) :
    (c.before choices m).work + m ≤ n + (c.before choices n).work := by
  induction m, later using Nat.le_induction with
  | base => exact Nat.le_of_eq (Nat.add_comm _ _)
  | succ m after ih =>
      obtain ⟨task, there, ready⟩ := busy m after (Nat.lt_succ_self m)
      have less := (converses m).serves.work_turn_lt replies
        (fun flight launches => conversation.admits there launches) ready
      have before := ih fun k first last => busy k first (Nat.lt_succ_of_lt last)
      have shape : c.before choices (m + 1) = (c.before choices m).turn task := before_succ there
      rw [shape]
      omega

end Coordinator

end Mediation
