import Mediation.Proofs.Coordinator.Turns
import Mediation.Proofs.Runs

/-!
# Every suspension ends once

A run of a coordinator is any list of events: callers begin requests, replies, queries and stops,
tasks take turns in any order, requests move, time passes. Every suspension that such a run hands
out ends at most once, and in one of five ways (`suspensions_end_once`). A suspension that has not
ended belongs to exactly one request in the registry, and none is left when a stop returns.
-/

set_option autoImplicit false

namespace Mediation

/-- The jobs that callers begin. The others belong to the coordinator. -/
def Job.isCall : Job → Bool
  | .request _ _ none | .register _ _ _ | .sent _ _ _ _ | .reply _ | .deliver _ | .query none
  | .stop => true
  | .request _ _ (some _) | .suspended _ | .watch _ | .carried _ _ | .early _ _ _
  | .query (some _) | .sweep _ | .resolve _ | .join _ _ => false

theorem Job.keyed_of_isCall {job : Job} (call : job.isCall) : job.Keyed := by
  cases job with
  | early message id carried => simp [isCall] at call
  | _ => trivial

namespace Coordinator

/-- The events of a run in which nobody but the coordinator begins the coordinator's own jobs. -/
def Choice.isCall : Choice → Bool
  | .spawn job => job.isCall
  | .turn _ | .register _ _ _ | .start | .rekey _ _ | .publish _ | .elapse _ => true

variable {c d : Coordinator} {task : TaskId} {registered : List (Exchange × Duration)}

/-! ## Events -/

/-- A coordinator that has given a task its turn. -/
def called (c : Coordinator) (task : TaskId) : Coordinator :=
  { c with ready := c.ready.filter fun other => other ≠ task }

theorem quiet_called (c : Coordinator) (task : TaskId) : Quiet c (c.called task) :=
  ⟨⟨rfl, rfl, rfl, id⟩, rfl, rfl, rfl⟩

theorem jobDeed_called (c : Coordinator) (task : TaskId) (job : Job) :
    (c.called task).jobDeed job = c.jobDeed job := by
  cases job with
  | request x timeout waiting =>
      simp only [jobDeed, provisionalId]
      cases x.inbound.correlationId? <;> rfl
  | sent x id timeout answer => cases answer <;> rfl
  | sweep next => cases next <;> rfl
  | _ => rfl

theorem deed_turn {job : Job} (standing : c.job? task = some job) :
    c.deed (.turn task) = c.jobDeed job := by
  simp [deed, standing]

/-- When a task has had its turn, the coordinator is gone if nobody holds it any more. -/
theorem turn_eq_letGo {job : Job} (standing : c.job? task = some job) :
    c.turn task = ((c.called task).runJob task job).letGo := by
  have same : (c.called task).job? task = some job := standing
  rw [called] at same ⊢
  simp only [turn, same]

/-- A task that takes its turn does so as long as someone holds the coordinator. -/
theorem turn_eq {job : Job} (standing : c.job? task = some job)
    (held : ((c.called task).runJob task job).held = true) :
    c.turn task = (c.called task).runJob task job := by
  rw [turn_eq_letGo standing, letGo_eq_self held]

/-- A task that has ended does nothing with its turn. -/
theorem turn_of_ended (ended : c.job? task = none) : c.turn task = c.called task := by
  have gone : (c.called task).job? task = none := ended
  rw [called] at gone ⊢
  simp only [turn, gone]

theorem Sound.leads_called (sound : c.Sound registered []) {job : Job}
    (standing : c.job? task = some job) :
    Leads (Ends c (c.jobDeed job)) (registered ++ (c.registers? (c.jobDeed job)).toList) [] c
      ((c.called task).runJob task job) := by
  have quiet := c.quiet_called task
  have runs := (sound.of_sameBooks quiet.toSameBooks).leads_runJob task job
    (sound.keyed.job? standing)
  rw [c.jobDeed_called, quiet.registers?] at runs
  exact runs.after_quiet quiet

theorem Sound.leads_turn (sound : c.Sound registered []) (task : TaskId) :
    Leads (Ends c (c.deed (.turn task)))
      (registered ++ (c.registers? (c.deed (.turn task))).toList) [] c (c.turn task) := by
  cases standing : c.job? task with
  | none =>
      have deed : c.deed (.turn task) = .other := by simp [Coordinator.deed, standing]
      rw [turn_of_ended standing, deed]
      exact .of_idle rfl (sound.leads_same (c.quiet_called task).toSameBooks)
  | some job =>
      have runs := sound.leads_called standing
      rw [turn_eq standing runs.sound.held, deed_turn standing]
      exact runs

theorem sameBooks_start (c : Coordinator) : SameBooks c (c.step .start) := by
  simp only [step, start]
  cases c.lifecycle.start with
  | error refusal => exact (Quiet.refl c).toSameBooks
  | ok lifecycle =>
      let listening := { c with lifecycle, transport := c.transport.listen }
      have begins : SameBooks c listening := ⟨rfl, rfl, rfl, id⟩
      have resolver : Quiet listening (listening.spawn (.resolve none)).1 :=
        listening.quiet_spawn (by trivial)
      have sweeper := (listening.spawn (.resolve none)).1.quiet_spawn
        (show Job.Keyed (.sweep none) from trivial)
      have both := (resolver.trans sweeper).toSameBooks
      exact ⟨both.entries.trans begins.entries, both.handoffs.trans begins.handoffs,
        both.held.trans begins.held, both.keyed ∘ begins.keyed⟩

/-- **Every event** keeps the books sound and ends suspensions only as its deed allows. -/
theorem Sound.leads_step (sound : c.Sound registered []) {choice : Choice}
    (call : choice.isCall) :
    Leads (Ends c (c.deed choice)) (registered ++ (c.registers? (c.deed choice)).toList) [] c
      (c.step choice) := by
  cases choice with
  | turn task => exact sound.leads_turn task
  | spawn job =>
      exact .of_idle rfl (sound.leads_same (c.quiet_spawn (Job.keyed_of_isCall call)).toSameBooks)
  | register x id timeout =>
      let enrolment : Enrolment := { exchange := x, id, timeout, assigned := none }
      change Leads (Ends c (.enrol enrolment))
        (registered ++ (c.registers? (.enrol enrolment)).toList) [] c _
      cases enrols : c.enrol x id timeout with
      | error panic =>
          simp only [step, enrols]
          exact .of_idle (registers?_of_error enrols)
            (sound.leads_same (Quiet.refl c).toSameBooks)
      | ok outcome =>
          obtain ⟨enrolled, ticket⟩ := outcome
          have entered := sound.leads_enrol (show c.enrol enrolment.exchange enrolment.id
            enrolment.timeout = .ok (enrolled, ticket) from enrols)
          simp only [step, enrols]
          exact entered.then_same (enrolled.quiet_spawn (by trivial)).toSameBooks
  | start => exact .of_idle rfl (sound.leads_same c.sameBooks_start)
  | rekey source target => exact .of_idle rfl (sound.leads_rekey source target)
  | publish address =>
      exact .of_idle rfl (sound.leads_same ⟨rfl, rfl, rfl, id⟩)
  | elapse instant =>
      exact .of_idle rfl (sound.leads_same ⟨rfl, rfl, rfl, id⟩)

/-! ## Runs -/

/-- The registrations that a run makes, by ticket. -/
def registrations (c : Coordinator) : List Choice → List (Exchange × Duration)
  | [] => []
  | choice :: rest =>
    (c.registers? (c.deed choice)).toList ++ (c.step choice).registrations rest

/-- The coordinator before the `n`-th event of a run. -/
def before (c : Coordinator) (choices : List Choice) (n : Nat) : Coordinator :=
  c.run (choices.take n)

/-- The suspension of a ticket ends at the `n`-th event of a run. -/
structure EndsAt (c : Coordinator) (choices : List Choice) (ticket : Ticket)
    (request : Exchange × Duration) (n : Nat) (ending : Ending) : Prop where
  open_before : (c.before choices n).verdict? ticket = none
  cause : ∃ choice, choices[n]? = some choice ∧
    (c.before choices n).Ends ((c.before choices n).deed choice) ticket ending
  verdict_after : (c.before choices (n + 1)).verdict? ticket = some (ending.verdict request)

variable {choices : List Choice} {choice : Choice} {ticket : Ticket} {verdict : Verdict} {n : Nat}

theorem before_succ (there : choices[n]? = some choice) :
    c.before choices (n + 1) = (c.before choices n).step choice :=
  foldl_take_succ there

theorem Sound.run (sound : c.Sound registered [])
    (calls : ∀ choice ∈ choices, choice.isCall) :
    (c.run choices).Sound (registered ++ c.registrations choices) [] := by
  induction choices generalizing c registered with
  | nil => simpa [registrations, Coordinator.run] using sound
  | cons choice rest ih =>
      have first := sound.leads_step (calls choice List.mem_cons_self)
      have later := ih first.sound fun other member => calls other (List.mem_cons_of_mem _ member)
      rw [List.append_assoc] at later
      exact later

/-- A verdict stays whatever follows. -/
theorem Sound.verdict?_run (sound : c.Sound registered [])
    (calls : ∀ choice ∈ choices, choice.isCall) (known : c.verdict? ticket = some verdict) :
    (c.run choices).verdict? ticket = some verdict := by
  induction choices generalizing c registered with
  | nil => exact known
  | cons choice rest ih =>
      have first := sound.leads_step (calls choice List.mem_cons_self)
      exact ih first.sound (fun other member => calls other (List.mem_cons_of_mem _ member))
        (first.kept ticket verdict known)

/-- **A new verdict comes from an event that ends the suspension.** -/
theorem Sound.exists_endsAt (sound : c.Sound registered [])
    (calls : ∀ choice ∈ choices, choice.isCall) (pending : c.verdict? ticket = none)
    (known : (c.run choices).verdict? ticket = some verdict) :
    ∃ request n ending, (registered ++ c.registrations choices)[ticket]? = some request ∧
      c.EndsAt choices ticket request n ending ∧ verdict = ending.verdict request := by
  induction choices generalizing c registered with
  | nil =>
      rw [show c.run [] = c from rfl, pending] at known
      simp at known
  | cons choice rest ih =>
      have first := sound.leads_step (calls choice List.mem_cons_self)
      have others : ∀ other ∈ rest, other.isCall := fun other member =>
        calls other (List.mem_cons_of_mem _ member)
      change ((c.step choice).run rest).verdict? ticket = some verdict at known
      -- Verdicts stay, so the first event that leaves one has brought the one seen in the end.
      cases next : (c.step choice).verdict? ticket with
      | none =>
          obtain ⟨request, n, ending, listed, ends, shown⟩ := ih first.sound others next known
          rw [List.append_assoc] at listed
          exact ⟨request, n + 1, ending, listed, ⟨ends.open_before, ends.cause,
            ends.verdict_after⟩, shown⟩
      | some earlier =>
          obtain ⟨request, ending, listed, cause, shown⟩ :=
            first.explained ticket earlier pending next
          have same := first.sound.verdict?_run others next
          rw [known, Option.some_inj] at same
          refine ⟨request, 0, ending, ?_, ⟨pending, ⟨choice, rfl, cause⟩, ?_⟩, same.trans shown⟩
          · rw [registrations, ← List.append_assoc,
              List.getElem?_append_left (List.getElem?_eq_some_iff.mp listed).1]
            exact listed
          · rw [← shown]
            exact next

theorem calls_take (calls : ∀ choice ∈ choices, choice.isCall) (n : Nat) :
    ∀ choice ∈ choices.take n, choice.isCall :=
  fun choice member => calls choice (List.mem_of_mem_take member)

/-- A verdict that is there before one event is there before every later one. -/
theorem Sound.verdict?_before (sound : c.Sound registered [])
    (calls : ∀ choice ∈ choices, choice.isCall) {m : Nat} (later : n ≤ m)
    (known : (c.before choices n).verdict? ticket = some verdict) :
    (c.before choices m).verdict? ticket = some verdict := by
  have split : choices.take m = choices.take n ++ (choices.take m).drop n := by
    have parts := List.take_append_drop n (choices.take m)
    rw [List.take_take, Nat.min_eq_left later] at parts
    exact parts.symm
  have shape : c.before choices m = (c.before choices n).run ((choices.take m).drop n) := by
    conv_lhs => rw [before, split, Coordinator.run, List.foldl_append]
    rfl
  rw [shape]
  refine (sound.run (calls_take calls n)).verdict?_run ?_ known
  intro choice member
  exact calls_take calls m choice (List.mem_of_mem_drop member)

/-- **A suspension ends at one event, in one way.** -/
theorem EndsAt.unique (sound : c.Sound registered [])
    (calls : ∀ choice ∈ choices, choice.isCall) {request again : Exchange × Duration} {m : Nat}
    {ending other : Ending} (first : c.EndsAt choices ticket request n ending)
    (second : c.EndsAt choices ticket again m other) : n = m ∧ ending = other := by
  rcases Nat.lt_trichotomy n m with less | rfl | more
  · have settled := sound.verdict?_before calls less first.verdict_after
    rw [second.open_before] at settled
    simp at settled
  · obtain ⟨choice, there, cause⟩ := first.cause
    obtain ⟨twin, thereToo, causeToo⟩ := second.cause
    rw [there, Option.some_inj] at thereToo
    rw [← thereToo] at causeToo
    exact ⟨rfl, Ends.unique (sound.run (calls_take calls n)) cause causeToo⟩
  · have settled := sound.verdict?_before calls more second.verdict_after
    rw [first.open_before] at settled
    simp at settled

/-! ## Stops -/

/-- A stop that raised the signal returns at the `n`-th event of a run, in time or not. -/
def StopReturns (c : Coordinator) (choices : List Choice) (n : Nat) : Prop :=
  ∃ task instant error, choices[n]? = some (.turn task) ∧
    (c.before choices n).deed (.turn task) = .stop ∧
    (c.before choices (n + 1)).ended =
      { task, instant, report := .stopped error } :: (c.before choices n).ended

theorem concludeStop_entries (c : Coordinator) (task : TaskId) (tasks : List TaskId)
    (joined : Bool) : (c.concludeStop task tasks joined).registry.entries = [] := by
  have empties : ∀ quiet : Coordinator, quiet.drain.registry.entries = [] := fun quiet => by
    rw [drain_registry]
    rfl
  cases joined with
  | true => exact empties c
  | false => exact empties (c.discard tasks)

/-- A stop that waits for others either goes on waiting or empties the registry. -/
theorem joinTasks_cases (c : Coordinator) (task : TaskId) (tasks : List TaskId)
    (deadline : Instant) :
    (c.joinTasks task tasks deadline).ended = c.ended ∨
      (c.joinTasks task tasks deadline).registry.entries = [] := by
  unfold joinTasks
  split
  · exact .inr (c.concludeStop_entries task tasks true)
  · split
    · exact .inr (c.concludeStop_entries task tasks false)
    · exact .inl rfl

/-- A stop that begins while the coordinator runs waits, empties the registry, or panics. -/
theorem beginStop_cases (c : Coordinator) (task : TaskId)
    (running : c.lifecycle.runAllowed = true) :
    (c.beginStop task).ended = c.ended ∨ (c.beginStop task).registry.entries = [] ∨
      ∃ instant panic, (c.beginStop task).ended =
        { task, instant, report := .panicked panic } :: c.ended := by
  have begun : c.lifecycle.beginStop? =
      some { c.lifecycle with phase := .stopping, signal := true } := by
    simp [Lifecycle.beginStop?, running]
  cases timer : c.now.giveUp? c.config.shutdownGrace with
  | some deadline =>
      rw [beginStop_timed begun timer]
      rcases joinTasks_cases (c.withSignal _) task c.background deadline with waits | empty
      · exact .inl waits
      · exact .inr (.inl empty)
  | none =>
      rw [beginStop_untimed begun timer]
      split
      · exact .inr (.inl (concludeStop_entries _ _ _ _))
      · exact .inr (.inr ⟨c.now, beyondClock, rfl⟩)

/-- **When a stop that raised the signal returns, the registry is empty.** -/
theorem runJob_stop_entries {job : Job} (deed : c.jobDeed job = .stop) {instant : Instant}
    {error : Option RuntimeError}
    (returns : (c.runJob task job).ended =
      { task, instant, report := .stopped error } :: c.ended) :
    (c.runJob task job).registry.entries = [] := by
  cases job with
  | join tasks deadline =>
      change (c.joinTasks task tasks deadline).ended = _ at returns
      rcases c.joinTasks_cases task tasks deadline with waits | empty
      · rw [waits] at returns
        simp at returns
      · exact empty
  | stop =>
      change (c.beginStop task).ended = _ at returns
      cases running : c.lifecycle.runAllowed with
      | false => simp [jobDeed, running] at deed
      | true =>
          rcases c.beginStop_cases task running with waits | empty | ⟨_, _, panics⟩
          · rw [waits] at returns
            simp at returns
          · exact empty
          · rw [panics] at returns
            simp at returns
  | request x timeout waiting =>
      simp only [jobDeed] at deed
      split at deed
      · simp at deed
      · split at deed
        · simp at deed
        · simp at deed
  | sent x id timeout answer => cases answer <;> simp [jobDeed] at deed
  | sweep next => cases next <;> simp [jobDeed] at deed
  | _ => simp [jobDeed] at deed

theorem Sound.stop_entries (sound : c.Sound registered [])
    (calls : ∀ choice ∈ choices, choice.isCall)
    (returns : c.StopReturns choices n) : (c.before choices (n + 1)).registry.entries = [] := by
  obtain ⟨task, instant, error, there, deed, ended⟩ := returns
  have here := sound.run (calls_take calls n)
  rw [before_succ there] at ended ⊢
  change ((c.before choices n).turn task).ended = _ at ended
  change ((c.before choices n).turn task).registry.entries = []
  change (c.before choices n).Sound _ [] at here
  cases standing : (c.before choices n).job? task with
  | none => simp [Coordinator.deed, standing] at deed
  | some job =>
      rw [deed_turn standing, ← jobDeed_called _ task] at deed
      have runs := here.leads_called standing
      rw [turn_eq standing runs.sound.held] at ended ⊢
      exact runJob_stop_entries deed ended

/-! ## The end of every suspension -/

/-- What becomes of the suspensions of a run. -/
structure EndsOnce (c : Coordinator) (choices : List Choice) : Prop where
  /-- Every registration hands out one suspension. -/
  given : (c.run choices).handoffs.length = (c.registrations choices).length
  /-- A suspension ends at one event at most, and in one way. -/
  once : ∀ ticket request n ending, c.EndsAt choices ticket request n ending →
    ∀ again m other, c.EndsAt choices ticket again m other → m = n ∧ other = ending
  /-- A verdict comes from the event that ended the suspension. -/
  ended : ∀ ticket request verdict, (c.registrations choices)[ticket]? = some request →
    (c.run choices).verdict? ticket = some verdict →
      ∃ n ending, c.EndsAt choices ticket request n ending ∧ verdict = ending.verdict request
  /-- Without a verdict, one request waits, with what was registered. -/
  waits : ∀ ticket request, (c.registrations choices)[ticket]? = some request →
    (c.run choices).verdict? ticket = none →
      ∃! entry, entry ∈ (c.run choices).registry.entries ∧ entry.ticket = ticket ∧
        (entry.exchange, entry.timeout) = request
  /-- When a stop returns no request waits, and every suspension handed out so far has ended. -/
  stops : ∀ n, c.StopReturns choices n →
    (c.before choices (n + 1)).registry.entries = [] ∧
      ∀ ticket, ticket < (c.before choices (n + 1)).handoffs.length →
        ((c.before choices (n + 1)).verdict? ticket).isSome

/-- **Every suspension ends once.** Whatever callers begin, in whatever order tasks take their turns
and time passes, the suspensions of a run end at most once each, with a reply or its fault, a
timeout, a shutdown, or superseded; and none is left when a stop returns. -/
theorem suspensions_end_once (config : CoordinatorConfig) (transport : Transport)
    (naming : Nat → String) (choices : List Choice)
    (calls : ∀ choice ∈ choices, choice.isCall) :
    (create config transport naming).EndsOnce choices := by
  have start := sound_create config transport naming
  generalize create config transport naming = c at start
  have final := start.run calls
  rw [List.nil_append] at final
  refine ⟨final.size, ?_, ?_, ?_, ?_⟩
  · intro ticket request n ending first again m other second
    exact second.unique start calls first
  · intro ticket request verdict known shown
    have none_yet : c.verdict? ticket = none := by
      rw [verdict?, List.getElem?_eq_none (by simp [start.size])]
      rfl
    obtain ⟨found, n, ending, listed, ends, same⟩ := start.exists_endsAt calls none_yet shown
    rw [List.nil_append, known, Option.some_inj] at listed
    rw [listed]
    exact ⟨n, ending, ends, same⟩
  · intro ticket request known pending
    have given := (List.getElem?_eq_some_iff.mp known).1
    obtain ⟨entry, inside, rfl⟩ := final.exists_entry given pending
    have agrees := (final.agrees inside).1
    rw [known, Option.some_inj] at agrees
    refine ⟨entry, ⟨inside, rfl, agrees.symm⟩, ?_⟩
    rintro other ⟨member, same, _⟩
    exact final.entry_eq member inside same
  · intro n returns
    have empty := start.stop_entries calls returns
    refine ⟨empty, ?_⟩
    intro ticket given
    have here := start.run (calls_take calls (n + 1))
    change (c.before choices (n + 1)).Sound _ [] at here
    cases shown : (c.before choices (n + 1)).verdict? ticket with
    | some verdict => rfl
    | none =>
        obtain ⟨entry, inside, _⟩ := here.exists_entry (here.size ▸ given) shown
        rw [empty] at inside
        simp at inside

/-- Two requests come under one id, and a stop has to wait for the background tasks. -/
def stopOverTwo : List Choice :=
  [.start, .register default "a" (Duration.ofSeconds 1),
   .register default "a" (Duration.ofSeconds 1), .spawn .stop, .turn 4, .turn 0, .turn 1, .turn 4]

/-- The stop returns with its second turn, and then nothing waits. -/
theorem suspensions_end_once_stopOverTwo :
    (∀ choice ∈ stopOverTwo, choice.isCall) ∧
      (create default default fun _ => "").StopReturns stopOverTwo 7 ∧
      ((create default default fun _ => "").before stopOverTwo 8).registry.entries = [] := by
  have calls : ∀ choice ∈ stopOverTwo, choice.isCall := by decide
  have returns : (create default default fun _ => "").StopReturns stopOverTwo 7 :=
    ⟨4, 0, none, rfl, rfl, rfl⟩
  have ends := suspensions_end_once default default (fun _ => "") stopOverTwo calls
  exact ⟨calls, returns, (ends.stops 7 returns).1⟩

end Coordinator

end Mediation
