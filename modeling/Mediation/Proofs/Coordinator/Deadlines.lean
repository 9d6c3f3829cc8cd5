import Mathlib.Data.Nat.Init
import Mediation.Proofs.Coordinator.Live

/-!
# Requests keep their deadlines

A request gets its deadline when it is registered, the requested time after that instant. Moving it
to another id changes neither its ticket nor its deadline, and no event does anything else to the
deadlines of the requests that wait (`Sound.ages_step`). So whoever waits under a ticket does so
until the deadline of its registration (`Sound.deadline_of_ticket`). Only a sweep times a request
out, and only once its deadline has come (`RegistersAt.le_of_timeout`); the others stay as they are
(`Sound.spared_by_sweep`).
-/

set_option autoImplicit false

namespace Mediation

/-- A request that was another one before, under the same id or not. -/
structure Pending.Kin (entry old : Pending) : Prop where
  ticket : entry.ticket = old.ticket
  deadline : entry.deadline = old.deadline

namespace Coordinator

variable {c d e : Coordinator} {task : TaskId} {books : List (Exchange × Duration)}
  {choices : List Choice} {choice : Choice} {ticket : Ticket} {request : Exchange × Duration}
  {n m : Nat}

/-! ## What becomes of the requests that wait -/

/-- A request that is registered now. -/
structure Registers (c : Coordinator) (entry : Pending) : Prop where
  running : c.lifecycle.runAllowed = true
  ticket : entry.ticket = c.handoffs.length
  deadline : entry.deadline = c.now + entry.timeout.totalNanos

/-- The requests in `d` are requests in `c`, moved or not, or are registered now. -/
def Ages (c d : Coordinator) : Prop :=
  ∀ entry ∈ d.registry.entries,
    (∃ old ∈ c.registry.entries, entry.Kin old) ∨ c.Registers entry

theorem ages_of_subset (subset : d.registry.entries ⊆ c.registry.entries) : Ages c d :=
  fun entry inside => .inl ⟨entry, subset inside, rfl, rfl⟩

theorem ages_of_eq (same : d.registry.entries = c.registry.entries) : Ages c d :=
  ages_of_subset fun _ inside => same ▸ inside

/-- A quiet move may come before. -/
theorem Ages.after_quiet (quiet : Quiet c d) (ages : Ages d e) : Ages c e := by
  intro entry inside
  rcases ages entry inside with ⟨old, there, kin⟩ | registers
  · exact .inl ⟨old, quiet.entries ▸ there, kin⟩
  · exact .inr ⟨quiet.lifecycle ▸ registers.running, quiet.handoffs ▸ registers.ticket,
      quiet.now ▸ registers.deadline⟩

/-- A request may be moved afterwards. -/
theorem Ages.then_rekey (ages : Ages c d) (source target : String) :
    Ages c (d.rekey source target).1 := by
  intro entry inside
  rw [rekey_registry] at inside
  rcases Registry.rekey_cases d.registry source target with
    ⟨_, unchanged⟩ | ⟨moved, found, _, moves⟩
  · rw [unchanged] at inside
    exact ages entry inside
  · rw [moves, Registry.place_entries] at inside
    rcases List.mem_append.mp inside with kept | fresh
    · exact ages entry (Registry.mem_without.mp (Registry.mem_without.mp kept).1).1
    · obtain rfl := List.mem_singleton.mp fresh
      rcases ages moved (Registry.mem_of_find? found) with ⟨old, there, kin⟩ | registers
      · exact .inl ⟨old, there, kin.ticket, kin.deadline⟩
      · exact .inr ⟨registers.running, registers.ticket, registers.deadline⟩

theorem ages_enrol {x : Exchange} {id : String} {timeout : Duration}
    (enrols : c.enrol x id timeout = .ok (d, ticket)) : Ages c d := by
  rcases c.enrol_cases x id timeout with
    ⟨_, refused⟩ | ⟨_, _, panics⟩ | ⟨placement, running, registers, placed⟩
  · rw [refused, Except.ok.injEq, Prod.mk.injEq] at enrols
    rw [← enrols.1]
    exact ages_of_eq rfl
  · rw [panics] at enrols
    simp at enrols
  · rw [placed, Except.ok.injEq, Prod.mk.injEq] at enrols
    obtain ⟨deadline, fits, entries, _⟩ := Registry.register?_eq_some registers
    intro entry inside
    rw [← enrols.1, adopt_registry, entries] at inside
    rcases List.mem_append.mp inside with kept | fresh
    · exact .inl ⟨entry, (Registry.mem_without.mp kept).1, rfl, rfl⟩
    · obtain rfl := List.mem_singleton.mp fresh
      exact .inr ⟨running, rfl, Instant.after?_eq fits⟩

theorem ages_settleSend (c : Coordinator) (task : TaskId) (x : Exchange) (provisional : String)
    (timeout : Duration) (answer : Except Failure (Option String)) :
    Ages c (c.settleSend task x provisional timeout answer) := by
  cases answer with
  | error failure => exact ages_of_eq rfl
  | ok assigned =>
      cases enrols : c.enrol x provisional timeout with
      | error panic =>
          simp only [settleSend, enrols]
          exact ages_of_eq rfl
      | ok outcome =>
          obtain ⟨enrolled, ticket⟩ := outcome
          have entered : Ages c enrolled := ages_enrol enrols
          simp only [settleSend, enrols]
          intro entry inside
          rw [collect_registry] at inside
          split at inside
          · next target _ => exact entered.then_rekey provisional target entry inside
          · exact entered entry inside

theorem ages_seekAddress (c : Coordinator) (task : TaskId) (x : Exchange) (timeout : Duration)
    (waiting : Option Instant) : Ages c (c.seekAddress task x timeout waiting) := by
  cases known : c.replyAddress with
  | none => exact ages_of_eq (c.quiet_awaitAddress x timeout waiting known).entries
  | some address =>
      obtain ⟨sent, provisional, answer, quiet, sends, _⟩ :=
        c.sendRequest_cases task x timeout address
      simp only [seekAddress, known]
      rw [sends]
      exact (sent.ages_settleSend task x provisional timeout answer).after_quiet quiet

/-- **No turn** does anything else to the deadlines of those who wait. -/
theorem ages_runJob (c : Coordinator) (task : TaskId) (job : Job) : Ages c (c.runJob task job) := by
  cases job with
  | request x timeout waiting => exact c.ages_seekAddress task x timeout waiting
  | register x id timeout => exact c.ages_settleSend task x id timeout (.ok none)
  | sent x id timeout answer => exact c.ages_settleSend task x id timeout answer
  | suspended ticket => exact ages_of_eq (congrArg _ (c.collect_registry task ticket))
  | watch ticket => exact ages_of_eq (congrArg _ (c.see_registry task ticket))
  | reply message => exact ages_of_subset (c.receive_subset task message false)
  | deliver message => exact ages_of_subset (c.handOver_subset task message)
  | carried message due =>
      simp only [runJob]
      split
      · exact ages_of_subset (c.handOver_subset task message)
      · exact ages_of_eq rfl
  | early message id carried =>
      exact ages_of_subset (afterWait_subset _ (c.registry.continueWait_entries c.now task))
  | query waiting => exact ages_of_eq (c.quiet_askAddress task waiting).entries
  | sweep next => exact ages_of_subset (c.runSweeper_subset task next)
  | resolve due => exact ages_of_eq (c.quiet_runResolver task due).entries
  | stop => exact ages_of_subset (c.beginStop_subset task)
  | join tasks deadline => exact ages_of_subset (c.joinTasks_subset task tasks deadline)

theorem Sound.ages_turn (sound : c.Sound books []) (task : TaskId) :
    Ages c (c.turn task) := by
  cases standing : c.job? task with
  | none =>
      rw [turn_of_ended standing]
      exact ages_of_eq rfl
  | some job =>
      rw [turn_eq standing (sound.leads_called standing).sound.held]
      exact ((c.called task).ages_runJob task job).after_quiet (c.quiet_called task)

/-- **No event** does anything else to the deadlines of those who wait. -/
theorem Sound.ages_step (sound : c.Sound books []) (choice : Choice) :
    Ages c (c.step choice) := by
  cases choice with
  | turn task => exact sound.ages_turn task
  | spawn job => exact ages_of_eq rfl
  | register x id timeout =>
      cases enrols : c.enrol x id timeout with
      | error panic =>
          simp only [step, enrols]
          exact ages_of_eq rfl
      | ok outcome =>
          obtain ⟨enrolled, ticket⟩ := outcome
          have entered : Ages c enrolled := ages_enrol enrols
          simp only [step, enrols]
          exact entered
  | start => exact ages_of_eq c.sameBooks_start.entries
  | rekey source target => exact (ages_of_eq (c := c) (d := c) rfl).then_rekey source target
  | publish address => exact ages_of_eq rfl
  | elapse instant => exact ages_of_eq rfl

/-! ## Registrations -/

/-- The `n`-th event of a run registers a request under a ticket. -/
structure RegistersAt (c : Coordinator) (choices : List Choice) (ticket : Ticket)
    (request : Exchange × Duration) (n : Nat) : Prop where
  next : ticket = (c.before choices n).handoffs.length
  cause : ∃ choice, choices[n]? = some choice ∧
    (c.before choices n).registers? ((c.before choices n).deed choice) = some request

theorem registrations_succ (c : Coordinator) (there : choices[n]? = some choice) :
    c.registrations (choices.take (n + 1)) = c.registrations (choices.take n) ++
      ((c.before choices n).registers? ((c.before choices n).deed choice)).toList := by
  rw [List.take_add_one, there, registrations_append]
  exact congrArg _ (List.append_nil _)

/-- What was registered stays registered. -/
theorem registrations_le (known : (c.registrations (choices.take n))[ticket]? = some request)
    (later : n ≤ m) : (c.registrations (choices.take m))[ticket]? = some request := by
  induction m, later using Nat.le_induction with
  | base => exact known
  | succ m _ ih =>
      cases there : choices[m]? with
      | none =>
          rw [List.take_add_one, there, Option.toList_none, List.append_nil]
          exact ih
      | some choice =>
          rw [c.registrations_succ there, List.getElem?_append_left
            (List.getElem?_eq_some_iff.mp ih).1]
          exact ih

theorem Sound.before (sound : c.Sound [] []) (calls : ∀ choice ∈ choices, choice.isCall)
    (n : Nat) : (c.before choices n).Sound (c.registrations (choices.take n)) [] := by
  have here := sound.run (calls_take calls n)
  rwa [List.nil_append] at here

/-- A ticket is that of its registration. -/
theorem RegistersAt.registered (registers : c.RegistersAt choices ticket request m)
    (sound : c.Sound [] []) (calls : ∀ choice ∈ choices, choice.isCall) (later : m < n) :
    (c.registrations (choices.take n))[ticket]? = some request := by
  obtain ⟨choice, there, known⟩ := registers.cause
  refine registrations_le ?_ later
  rw [c.registrations_succ there, known, Option.toList_some, registers.next,
    (sound.before calls m).size, List.getElem?_concat_length]

/-- **Whoever waits under a ticket does so until the deadline of its registration.** -/
theorem Sound.deadline_of_ticket (sound : c.Sound [] [])
    (calls : ∀ choice ∈ choices, choice.isCall)
    (registers : c.RegistersAt choices ticket request m) (later : m < n) {entry : Pending}
    (inside : entry ∈ (c.before choices n).registry.entries) (own : entry.ticket = ticket) :
    entry.deadline = (c.before choices m).now + request.2.totalNanos := by
  -- a request with this ticket is the one registered, or was there before and has only moved
  induction n, later using Nat.le_induction generalizing entry with
  | base =>
      have here := sound.before calls m
      have known := (sound.before calls (m + 1)).agrees (List.mem_append_right [] inside)
      obtain ⟨choice, there, _⟩ := registers.cause
      rw [own, registers.registered sound calls (Nat.lt_succ_self m), Option.some_inj] at known
      rw [before_succ there] at inside
      rcases here.ages_step choice entry inside with ⟨old, before, kin⟩ | new
      · have below := here.ticket_lt before
        rw [← kin.ticket, own, registers.next] at below
        exact absurd below (Nat.lt_irrefl _)
      · rw [new.deadline, known.1]
  | succ n later ih =>
      cases there : choices[n]? with
      | none => exact ih (before_succ_of_none there ▸ inside) own
      | some choice =>
          have here := sound.before calls n
          rw [before_succ there] at inside
          rcases here.ages_step choice entry inside with ⟨old, before, kin⟩ | new
          · rw [kin.deadline]
            exact ih before (kin.ticket.symm.trans own)
          · have below := (List.getElem?_eq_some_iff.mp (registers.registered sound calls later)).1
            rw [← here.size, ← own, new.ticket] at below
            exact absurd below (Nat.lt_irrefl _)

/-! ## Sweeps -/

/-- The turn of a sweeper that has started. -/
def SweepsAt (c : Coordinator) (choices : List Choice) (n : Nat) : Prop :=
  ∃ task due, choices[n]? = some (.turn task) ∧
    (c.before choices n).job? task = some (.sweep (some due))

theorem jobDeed_eq_sweep {job : Job} (sweeps : c.jobDeed job = .sweep) :
    ∃ due, job = .sweep (some due) := by
  cases job with
  | sweep next =>
      cases next with
      | none => simp [jobDeed] at sweeps
      | some due => exact ⟨due, rfl⟩
  | request x timeout waiting =>
      simp only [jobDeed] at sweeps
      split at sweeps
      · simp at sweeps
      · split at sweeps <;> simp at sweeps
  | sent x id timeout answer => cases answer <;> simp [jobDeed] at sweeps
  | stop =>
      simp only [jobDeed] at sweeps
      split at sweeps <;> simp at sweeps
  | _ => simp [jobDeed] at sweeps

theorem deed_eq_sweep (sweeps : c.deed choice = .sweep) :
    ∃ task due, choice = .turn task ∧ c.job? task = some (.sweep (some due)) := by
  cases choice with
  | turn task =>
      cases standing : c.job? task with
      | none => simp [deed, standing] at sweeps
      | some job =>
          rw [deed_turn standing] at sweeps
          obtain ⟨due, rfl⟩ := jobDeed_eq_sweep sweeps
          exact ⟨task, due, rfl, standing⟩
  | _ => simp [deed] at sweeps

/-- **Only a sweep times a request out**, and only one whose deadline has come. -/
theorem EndsAt.of_timeout {id : String}
    (times : c.EndsAt choices ticket request n (.timeout id)) :
    c.SweepsAt choices n ∧ ∃ entry ∈ (c.before choices n).registry.entries,
      entry.ticket = ticket ∧ entry.deadline ≤ (c.before choices n).now := by
  obtain ⟨choice, there, cause⟩ := times.cause
  generalize known : (c.before choices n).deed choice = deed at cause
  cases cause with
  | timedOut inside late =>
      obtain ⟨task, due, rfl, standing⟩ := deed_eq_sweep known
      exact ⟨⟨task, due, there, standing⟩, _, inside, rfl, late⟩

/-- A request that times out was registered before. -/
theorem RegistersAt.lt_of_entry (registers : c.RegistersAt choices ticket request m)
    (sound : c.Sound [] []) (calls : ∀ choice ∈ choices, choice.isCall) {entry : Pending}
    (inside : entry ∈ (c.before choices n).registry.entries) (own : entry.ticket = ticket) :
    m < n := by
  refine Nat.lt_of_not_le fun before => ?_
  have known := ((sound.before calls n).agrees (List.mem_append_right [] inside)).1
  have still := (List.getElem?_eq_some_iff.mp (registrations_le known before)).1
  rw [own, registers.next, (sound.before calls m).size] at still
  exact absurd still (Nat.lt_irrefl _)

/-- **A request does not time out before its deadline.** -/
theorem RegistersAt.le_of_timeout (registers : c.RegistersAt choices ticket request m)
    (sound : c.Sound [] []) (calls : ∀ choice ∈ choices, choice.isCall) {id : String}
    {again : Exchange × Duration} (times : c.EndsAt choices ticket again n (.timeout id)) :
    (c.before choices m).now + request.2.totalNanos ≤ (c.before choices n).now := by
  obtain ⟨_, entry, inside, own, late⟩ := times.of_timeout
  have later := registers.lt_of_entry sound calls inside own
  rwa [sound.deadline_of_ticket calls registers later inside own] at late

theorem mem_runSweeper {entry : Pending} (inside : entry ∈ c.registry.entries)
    (early : c.now < entry.deadline) (next : Option Instant) :
    entry ∈ (c.runSweeper task next).registry.entries := by
  cases next with
  | none =>
      simp only [runSweeper]
      split
      · exact inside
      · split <;> exact inside
  | some next =>
      have kept : entry ∈ (c.sweepAt c.now true).1.registry.entries := by
        rw [sweepAt_registry, Registry.sweep_entries]
        exact List.mem_filter.mpr ⟨inside, by simpa using early⟩
      simp only [runSweeper]
      split
      · split <;> exact kept
      · split <;> exact inside

/-- **A sweep leaves those alone whose deadline is still to come.** -/
theorem Sound.spared_by_sweep (sound : c.Sound books []) {next : Option Instant}
    (standing : c.job? task = some (.sweep next)) {entry : Pending}
    (inside : entry ∈ c.registry.entries) (early : c.now < entry.deadline) :
    entry ∈ (c.turn task).registry.entries := by
  rw [turn_eq standing (sound.leads_called standing).sound.held]
  exact mem_runSweeper (c := c.called task) inside early next

end Coordinator

end Mediation
