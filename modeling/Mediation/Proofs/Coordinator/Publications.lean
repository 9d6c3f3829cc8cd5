import Mediation.Proofs.Coordinator.TurnedAway

/-!
# What a coordinator knows of its reply address

The reply address is published by callers, and by a search for it that finds one (`Publishes`).
Nothing else changes it, in particular no search that fails, no start and no stop: it is the one
that was published last (`Sound.lastPublished`).

Besides, only the turn of a request that knows the address sends anything. What the coordinator says
to its transport is otherwise left alone (`Mute`).
-/

set_option autoImplicit false

namespace Mediation.Coordinator

variable {c d e : Coordinator} {task : TaskId} {job : Job} {books : List (Exchange × Duration)}
  {choice : Choice} {choices : List Choice} {address other : String} {n m p q : Nat}

/-! ## Moves -/

/-- From `c` to `d` nothing is sent, and no reply address is published. -/
structure Mute (c d : Coordinator) : Prop where
  transport : d.transport = c.transport
  replyAddress : d.replyAddress = c.replyAddress

theorem Mute.trans (first : Mute c d) (second : Mute d e) : Mute c e where
  transport := second.transport.trans first.transport
  replyAddress := second.replyAddress.trans first.replyAddress

theorem mute_foldl {Item : Type} {act : Coordinator → Item → Coordinator}
    (acts : ∀ c item, Mute c (act c item)) (items : List Item) (c : Coordinator) :
    Mute c (items.foldl act c) := by
  induction items generalizing c with
  | nil => exact ⟨rfl, rfl⟩
  | cons item rest ih => exact (acts c item).trans (ih (act c item))

theorem mute_adopt (c : Coordinator) (placement : Registry.Placement) :
    Mute c (c.adopt placement) := by
  unfold adopt
  split <;> exact ⟨rfl, rfl⟩

theorem mute_enrol {x : Exchange} {id : String} {limit : Duration} {ticket : Ticket}
    (enrols : c.enrol x id limit = .ok (d, ticket)) : Mute c d := by
  rcases c.enrol_cases x id limit with
    ⟨_, refused⟩ | ⟨_, _, panics⟩ | ⟨placement, _, _, placed⟩
  · rw [refused, Except.ok.injEq, Prod.mk.injEq] at enrols
    rw [← enrols.1]
    exact ⟨rfl, rfl⟩
  · rw [panics] at enrols
    simp at enrols
  · rw [placed, Except.ok.injEq, Prod.mk.injEq] at enrols
    rw [← enrols.1]
    have opened : Mute c c.opened := ⟨rfl, rfl⟩
    exact opened.trans (c.opened.mute_adopt placement)

theorem mute_collect (c : Coordinator) (task : TaskId) (ticket : Ticket) :
    Mute c (c.collect task ticket) := by
  simp only [collect]
  split
  · split <;> exact ⟨rfl, rfl⟩
  · exact ⟨rfl, rfl⟩

theorem mute_see (c : Coordinator) (task : TaskId) (ticket : Ticket) :
    Mute c (c.see task ticket) := by
  simp only [see]
  split <;> exact ⟨rfl, rfl⟩

/-- What follows the answer of a transport is no business of the transport. -/
theorem mute_settleSend (c : Coordinator) (task : TaskId) (x : Exchange) (id : String)
    (limit : Duration) (answer : Except Failure (Option String)) :
    Mute c (c.settleSend task x id limit answer) := by
  cases answer with
  | error failure => exact ⟨rfl, rfl⟩
  | ok assigned =>
      cases enrols : c.enrol x id limit with
      | error panic =>
          simp only [settleSend, enrols]
          exact ⟨rfl, rfl⟩
      | ok outcome =>
          obtain ⟨enrolled, ticket⟩ := outcome
          simp only [settleSend, enrols]
          refine (mute_enrol enrols).trans ?_
          split
          · exact (enrolled.mute_adopt _).trans (mute_collect _ task ticket)
          · exact enrolled.mute_collect task ticket

theorem mute_carry (c : Coordinator) (reply : Option (Message × Duration)) :
    Mute c (c.carry reply) := by
  cases reply with
  | none => exact ⟨rfl, rfl⟩
  | some carried =>
      simp only [carry]
      split <;> exact ⟨rfl, rfl⟩

theorem mute_process (c : Coordinator) (holder : Holder) : Mute c (c.process holder) := by
  unfold process
  split
  · exact ⟨rfl, rfl⟩
  · split <;> exact ⟨rfl, rfl⟩

theorem mute_sweepAt (c : Coordinator) (instant : Instant) (counting : Bool) :
    Mute c (c.sweepAt instant counting).1 := by
  have taken : Mute c { c with registry := (c.registry.sweep instant).1 } := ⟨rfl, rfl⟩
  refine taken.trans (mute_foldl (fun c holder => ?_) _ _)
  have counted : Mute c
      (if counting then { c with tally := c.tally.count .repliesTimedOut } else c) := by
    split <;> exact ⟨rfl, rfl⟩
  exact counted.trans (mute_process _ holder)

theorem mute_drain (c : Coordinator) : Mute c c.drain := by
  have taken : Mute c { c with registry := c.registry.drain.1 } := ⟨rfl, rfl⟩
  refine taken.trans (mute_foldl (fun c (holder : Holder) => ?_) _ _)
  exact ⟨rfl, rfl⟩

/-! ## Turns -/

theorem mute_matchReply (c : Coordinator) (task : TaskId) (id : String) (message : Message)
    (carried : Bool) {unmatched : Coordinator → Coordinator} (otherwise : Mute c (unmatched c)) :
    Mute c (c.matchReply task id message carried unmatched) := by
  unfold matchReply
  split
  · next registry holder _ =>
      have taken : Mute c { c with registry } := ⟨rfl, rfl⟩
      have matched : Mute { c with registry } ({ c with registry }.process holder) :=
        mute_process _ holder
      exact (taken.trans matched).trans ⟨rfl, rfl⟩
  · exact otherwise

theorem mute_orphan (c : Coordinator) (task : TaskId) (carried : Bool) :
    Mute c (c.orphan task carried) :=
  ⟨rfl, rfl⟩

theorem mute_afterWait (c : Coordinator) (task : TaskId) (message : Message) (id : String)
    (carried : Bool) (outcome : Registry × Registry.WaitState) :
    Mute c (c.afterWait task message id carried outcome) := by
  obtain ⟨registry, state⟩ := outcome
  have waited : Mute c { c with registry } := ⟨rfl, rfl⟩
  have orphaned : Mute { c with registry } ({ c with registry }.orphan task carried) :=
    mute_orphan _ task carried
  match state with
  | .parked => exact ⟨rfl, rfl⟩
  | .beyondClock => exact ⟨rfl, rfl⟩
  | .over true =>
      have matched : Mute { c with registry } ({ c with registry }.matchReply task id message
          carried fun c => c.orphan task carried) :=
        mute_matchReply _ task id message carried orphaned
      exact waited.trans matched
  | .over false => exact waited.trans orphaned

theorem mute_receive (c : Coordinator) (task : TaskId) (message : Message) (carried : Bool) :
    Mute c (c.receive task message carried) := by
  unfold receive
  split
  · exact ⟨rfl, rfl⟩
  · have early : Mute c { c with tally := c.tally.count .repliesEarly } := ⟨rfl, rfl⟩
    exact c.mute_matchReply task _ message carried
      (early.trans (mute_afterWait _ task message _ carried _))

theorem mute_handOver (c : Coordinator) (task : TaskId) (message : Message) :
    Mute c (c.handOver task message) := by
  unfold handOver
  split
  · exact ⟨rfl, rfl⟩
  · split
    · exact ⟨rfl, rfl⟩
    · exact c.mute_receive task message true

theorem mute_askAddress (c : Coordinator) (task : TaskId) (waiting : Option Instant) :
    Mute c (c.askAddress task waiting) := by
  unfold askAddress
  split
  · exact ⟨rfl, rfl⟩
  · split
    · exact ⟨rfl, rfl⟩
    · split <;> exact ⟨rfl, rfl⟩

theorem mute_runSweeper (c : Coordinator) (task : TaskId) (next : Option Instant) :
    Mute c (c.runSweeper task next) := by
  have swept := c.mute_sweepAt c.now true
  cases next with
  | none =>
      simp only [runSweeper]
      split
      · exact ⟨rfl, rfl⟩
      · split <;> exact ⟨rfl, rfl⟩
  | some next =>
      simp only [runSweeper]
      split
      · split <;> exact swept.trans ⟨rfl, rfl⟩
      · split <;> exact ⟨rfl, rfl⟩

theorem mute_concludeStop (c : Coordinator) (task : TaskId) (tasks : List TaskId) (joined : Bool) :
    Mute c (c.concludeStop task tasks joined) := by
  cases joined with
  | true => exact c.mute_drain.trans ⟨rfl, rfl⟩
  | false =>
      have discarded : Mute c (c.discard tasks) := ⟨rfl, rfl⟩
      exact (discarded.trans (c.discard tasks).mute_drain).trans ⟨rfl, rfl⟩

theorem mute_joinTasks (c : Coordinator) (task : TaskId) (tasks : List TaskId)
    (deadline : Instant) : Mute c (c.joinTasks task tasks deadline) := by
  unfold joinTasks
  split
  · exact c.mute_concludeStop task tasks true
  · split
    · exact c.mute_concludeStop task tasks false
    · exact ⟨rfl, rfl⟩

theorem mute_beginStop (c : Coordinator) (task : TaskId) : Mute c (c.beginStop task) := by
  cases begun : c.lifecycle.beginStop? with
  | none =>
      rw [beginStop_refused begun]
      exact ⟨rfl, rfl⟩
  | some lifecycle =>
      have raised : Mute c (c.withSignal lifecycle) := ⟨rfl, rfl⟩
      cases timer : c.now.giveUp? c.config.shutdownGrace with
      | some deadline =>
          rw [beginStop_timed begun timer]
          exact raised.trans (mute_joinTasks _ task c.background deadline)
      | none =>
          rw [beginStop_untimed begun timer]
          split
          · exact raised.trans (mute_concludeStop _ task c.background true)
          · exact ⟨rfl, rfl⟩

/-- **Only requests that look for the reply address send, and only a search for it publishes
it.** -/
theorem mute_runJob (c : Coordinator) (task : TaskId) (job : Job)
    (asks : ∀ x limit waiting, job ≠ .request x limit waiting)
    (searches : ∀ due, job ≠ .resolve due) :
    Mute c (c.runJob task job) := by
  cases job with
  | request x limit waiting => exact absurd rfl (asks x limit waiting)
  | resolve due => exact absurd rfl (searches due)
  | register x id limit => exact c.mute_settleSend task x id limit (.ok none)
  | sent x id limit answer => exact c.mute_settleSend task x id limit answer
  | suspended ticket => exact c.mute_collect task ticket
  | watch ticket => exact c.mute_see task ticket
  | reply message => exact c.mute_receive task message false
  | deliver message => exact c.mute_handOver task message
  | carried message due =>
      simp only [runJob]
      split
      · exact c.mute_handOver task message
      · exact ⟨rfl, rfl⟩
  | early message id carried => exact c.mute_afterWait task message id carried _
  | query waiting => exact c.mute_askAddress task waiting
  | sweep next => exact c.mute_runSweeper task next
  | stop => exact c.mute_beginStop task
  | join tasks deadline => exact c.mute_joinTasks task tasks deadline

/-! ## Requests that know the address -/

/-- From `c` to `d` a request is handed to the transport, with an address for the reply, and its
task goes on with the answer of the transport. -/
structure Posts (c : Coordinator) (task : TaskId) (x : Exchange) (limit : Duration)
    (address : String) (d : Coordinator) : Prop where
  transport : d.transport =
    (c.transport.send x.inbound address (c.provisionalId x).2).transport
  goesOn : ∃ sent, Quiet c sent ∧ sent.registry = c.registry ∧
    d = sent.settleSend task x (c.provisionalId x).2 limit (c.sendAnswer x address)

theorem mute_provisionalId (c : Coordinator) (x : Exchange) : Mute c (c.provisionalId x).1 := by
  unfold provisionalId
  split <;> exact ⟨rfl, rfl⟩

theorem posts_sendRequest (c : Coordinator) (task : TaskId) (x : Exchange) (limit : Duration)
    (address : String) :
    c.Posts task x limit address (c.sendRequest task x limit address) ∧
      (c.sendRequest task x limit address).replyAddress = c.replyAddress := by
  let named := c.provisionalId x
  let dispatch := named.1.transport.send x.inbound address named.2
  let launched := { named.1 with transport := dispatch.transport }
  have names := c.mute_provisionalId x
  have settled : Mute launched (c.sendRequest task x limit address) :=
    (launched.mute_carry dispatch.reply).trans
      (mute_settleSend _ task x named.2 limit dispatch.answer)
  obtain ⟨sent, _, quiet, kept, sends⟩ := c.sendRequest_tends task x limit address
  refine ⟨⟨?_, sent, quiet, kept, sends⟩, settled.replyAddress.trans names.replyAddress⟩
  rw [settled.transport, ← names.transport]

theorem Posts.of_called {x : Exchange} {limit : Duration}
    (posts : (c.called task).Posts task x limit address d) : c.Posts task x limit address d := by
  have names : ((c.called task).provisionalId x).2 = (c.provisionalId x).2 :=
    Option.some.inj (c.sentUnder?_called task (.request x limit none))
  have answers : (c.called task).sendAnswer x address = c.sendAnswer x address := by
    rw [sendAnswer, names, (mute_provisionalId _ x).transport, sendAnswer,
      (c.mute_provisionalId x).transport]
    rfl
  obtain ⟨transport, sent, quiet, kept, settles⟩ := posts
  rw [names] at transport settles
  rw [answers] at settles
  exact ⟨transport, sent, (c.quiet_called task).trans quiet, kept, settles⟩

theorem replyAddress_seekAddress (c : Coordinator) (task : TaskId) (x : Exchange)
    (limit : Duration) (waiting : Option Instant) :
    (c.seekAddress task x limit waiting).replyAddress = c.replyAddress := by
  unfold seekAddress
  split
  · next address _ => exact (c.posts_sendRequest task x limit address).2
  · split
    · rfl
    · split <;> rfl

/-! ## Publications -/

/-- An event publishes a reply address. -/
inductive Publishes (c : Coordinator) : Choice → String → Prop
  /-- A caller sets it. -/
  | set (address : String) : Publishes c (.publish address) address
  /-- The search for it has found it. -/
  | found {task : TaskId} {due : Option Instant} {time : Duration} {address : String}
      (standing : c.job? task = some (.resolve due))
      (finds : c.transport.resolution = (time, .ok address))
      (come : due.getD (c.now.wakeUp time) ≤ c.now) (remains : c.dissolved = false) :
      Publishes c (.turn task) address

/-- An event publishes the address that is known from then on, or leaves it as it was. -/
def Tells (c : Coordinator) (choice : Choice) (d : Coordinator) : Prop :=
  (∃ address, c.Publishes choice address ∧ d.replyAddress = some address) ∨
    (∀ address, ¬ c.Publishes choice address) ∧ d.replyAddress = c.replyAddress

theorem tells_runResolver {due : Option Instant} (standing : c.job? task = some (.resolve due)) :
    c.Tells (.turn task) ((c.called task).runResolver task due) := by
  have silent : (∀ time address, c.transport.resolution = (time, .ok address) →
      due.getD (c.now.wakeUp time) ≤ c.now → c.dissolved ≠ false) →
        ∀ address, ¬ c.Publishes (.turn task) address := by
    rintro never address (_ | ⟨there, finds, come, remains⟩)
    rw [standing, Option.some_inj, Job.resolve.injEq] at there
    exact never _ address finds (there ▸ come) remains
  obtain ⟨⟨time, found⟩, resolution⟩ : ∃ outcome, c.transport.resolution = outcome := ⟨_, rfl⟩
  have same : (c.called task).transport.resolution = (time, found) := resolution
  simp only [runResolver, same]
  split
  · next come =>
      cases found with
      | error failure =>
          refine .inr ⟨silent fun _ _ finds => ?_, rfl⟩
          simp [resolution] at finds
      | ok address =>
          simp only
          split
          · next gone =>
              exact .inr ⟨silent fun _ _ _ _ remains => by simp [called, remains] at gone, rfl⟩
          · next remains =>
              have there : c.dissolved = false := Bool.not_eq_true _ ▸ remains
              exact .inl ⟨address, .found standing resolution come there, rfl⟩
  · next early =>
      refine .inr ⟨silent fun other address finds come => ?_, ?_⟩
      · rw [resolution, Prod.mk.injEq] at finds
        exact absurd (finds.1 ▸ come) early
      · split <;> rfl

/-- **Every event.** -/
theorem Sound.tells_step (sound : c.Sound books []) (choice : Choice) :
    c.Tells choice (c.step choice) := by
  have mute : ∀ {d : Coordinator}, d.replyAddress = c.replyAddress →
      (∀ address, ¬ c.Publishes choice address) → c.Tells choice d :=
    fun kept silent => .inr ⟨silent, kept⟩
  cases choice with
  | publish address => exact .inl ⟨address, .set address, rfl⟩
  | turn task =>
      change c.Tells (.turn task) (c.turn task)
      cases standing : c.job? task with
      | none =>
          rw [turn_of_ended standing]
          refine mute rfl ?_
          rintro address (_ | ⟨there, _⟩)
          simp [standing] at there
      | some job =>
          rw [turn_eq standing (sound.leads_called standing).sound.held]
          by_cases searches : ∃ due, job = .resolve due
          · obtain ⟨due, rfl⟩ := searches
            exact tells_runResolver standing
          · have silent : ∀ address, ¬ c.Publishes (.turn task) address := by
              rintro address (_ | ⟨there, _⟩)
              exact searches ⟨_, Option.some.inj (standing.symm.trans there)⟩
            refine mute ?_ silent
            by_cases asks : ∃ x limit waiting, job = .request x limit waiting
            · obtain ⟨x, limit, waiting, rfl⟩ := asks
              exact (c.called task).replyAddress_seekAddress task x limit waiting
            · have muted := mute_runJob (c.called task) task job
                (fun x limit waiting same => asks ⟨x, limit, waiting, same⟩)
                fun due same => searches ⟨due, same⟩
              exact muted.replyAddress
  | start =>
      refine mute ?_ (by rintro _ ⟨⟩)
      rcases c.step_start_cases with same | starts
      · rw [same]
      · exact starts.replyAddress
  | spawn job => exact mute rfl (by rintro _ ⟨⟩)
  | register x id limit =>
      refine mute ?_ (by rintro _ ⟨⟩)
      cases enrols : c.enrol x id limit with
      | error panic => simp only [step, enrols]
      | ok outcome =>
          simp only [step, enrols]
          exact (mute_enrol enrols).replyAddress
  | rekey source target => exact mute (c.mute_adopt _).replyAddress (by rintro _ ⟨⟩)
  | elapse instant => exact mute rfl (by rintro _ ⟨⟩)

/-! ## Runs -/

/-- The `n`-th event of a run publishes a reply address. -/
def PublishesAt (c : Coordinator) (choices : List Choice) (address : String) (n : Nat) : Prop :=
  ∃ choice, choices[n]? = some choice ∧ (c.before choices n).Publishes choice address

/-- The address that was published last before the `n`-th event of a run, or that none was. -/
def LastPublished (c : Coordinator) (choices : List Choice) (n : Nat) : Option String → Prop
  | none => ∀ p < n, ∀ address, ¬ c.PublishesAt choices address p
  | some address => ∃ p < n, c.PublishesAt choices address p ∧
      ∀ q, p < q → q < n → ∀ other, ¬ c.PublishesAt choices other q

/-- A publication before which there is none. -/
structure FirstPublished (c : Coordinator) (choices : List Choice) (n : Nat) : Prop where
  unpublished : c.LastPublished choices n none
  publishes : ∃ address, c.PublishesAt choices address n

/-- If an address was published, there is a first publication. -/
theorem LastPublished.exists_first (latest : c.LastPublished choices n (some address)) :
    ∃ p < n, c.FirstPublished choices p := by
  obtain ⟨p, before, publishes, -⟩ := latest
  induction p using Nat.strong_induction_on generalizing address with
  | _ p ih =>
      by_cases earlier : ∃ q < p, ∃ other, c.PublishesAt choices other q
      · obtain ⟨q, less, other, again⟩ := earlier
        exact ih q less (Nat.lt_trans less before) again
      · refine ⟨p, before, fun q less other again => ?_, address, publishes⟩
        exact earlier ⟨q, less, other, again⟩

theorem FirstPublished.le (first : c.FirstPublished choices n)
    (publishes : c.PublishesAt choices address m) : n ≤ m :=
  Nat.not_lt.mp fun earlier => first.unpublished m earlier address publishes

theorem FirstPublished.unique (first : c.FirstPublished choices n)
    (again : c.FirstPublished choices m) : n = m := by
  obtain ⟨_, publishes⟩ := first.publishes
  obtain ⟨_, publishesToo⟩ := again.publishes
  exact Nat.le_antisymm (first.le publishesToo) (again.le publishes)

/-- The turn of a task that does not search for the address publishes none. -/
theorem PublishesAt.searches (publishes : c.PublishesAt choices address n)
    (own : choices[n]? = some (.turn task)) :
    ∃ due, (c.before choices n).job? task = some (.resolve due) := by
  obtain ⟨choice, there, publishes⟩ := publishes
  obtain rfl := Option.some.inj (own.symm.trans there)
  cases publishes with
  | found standing => exact ⟨_, standing⟩

theorem PublishesAt.lt_length (publishes : c.PublishesAt choices address n) :
    n < choices.length := by
  obtain ⟨choice, there, _⟩ := publishes
  exact (List.getElem?_eq_some_iff.mp there).1

/-- While the search for the address fails, only callers publish. -/
theorem PublishesAt.by_caller {time : Duration} {failure : Failure}
    (fails : (c.before choices n).transport.resolution = (time, .error failure))
    (publishes : c.PublishesAt choices address n) : choices[n]? = some (.publish address) := by
  obtain ⟨choice, there, publishes⟩ := publishes
  cases publishes with
  | set => exact there
  | found _ finds => simp [fails] at finds

theorem LastPublished.succ (unpublished : c.LastPublished choices n none)
    (silent : ∀ address, ¬ c.PublishesAt choices address n) :
    c.LastPublished choices (n + 1) none := by
  intro p before address publishes
  rcases Nat.lt_succ_iff_lt_or_eq.mp before with less | rfl
  · exact unpublished p less address publishes
  · exact silent address publishes

/-- **What a coordinator knows** is the address that was published last. -/
theorem Sound.lastPublished (sound : c.Sound [] []) (unknown : c.replyAddress = none)
    (calls : ∀ choice ∈ choices, choice.isCall) (n : Nat) :
    c.LastPublished choices n (c.before choices n).replyAddress := by
  induction n with
  | zero =>
      have first : (c.before choices 0).replyAddress = none := unknown
      rw [first]
      exact fun p before => absurd before (Nat.not_lt_zero p)
  | succ n ih =>
      -- if the event does not publish, the last publication is the one it was
      have kept : (∀ address, ¬ c.PublishesAt choices address n) →
          c.LastPublished choices (n + 1) (c.before choices n).replyAddress := by
        intro silent
        cases known : (c.before choices n).replyAddress with
        | none => exact (known ▸ ih).succ silent
        | some address =>
            rw [known] at ih
            obtain ⟨p, before, publishes, none⟩ := ih
            refine ⟨p, Nat.lt_succ_of_lt before, publishes, fun q after less other => ?_⟩
            rcases Nat.lt_succ_iff_lt_or_eq.mp less with earlier | rfl
            · exact none q after earlier other
            · exact silent other
      cases there : choices[n]? with
      | none =>
          rw [before_succ_of_none there]
          exact kept fun address ⟨choice, happens, _⟩ => by simp [there] at happens
      | some choice =>
          have here := sound.before calls n
          rcases here.tells_step choice with ⟨address, publishes, known⟩ | ⟨silent, same⟩
          · rw [before_succ there, known]
            refine ⟨n, Nat.lt_succ_self n, ⟨choice, there, publishes⟩, fun q after less => ?_⟩
            exact absurd (Nat.lt_succ_iff.mp less) (Nat.not_le.mpr after)
          · rw [before_succ there, same]
            refine kept fun address ⟨other, happens, publishes⟩ => ?_
            rw [there, Option.some_inj] at happens
            exact silent address (happens ▸ publishes)

/-- An address that was published stays known. -/
theorem Sound.known (sound : c.Sound [] []) (unknown : c.replyAddress = none)
    (calls : ∀ choice ∈ choices, choice.isCall) (publishes : c.PublishesAt choices address p)
    (before : p < n) : (c.before choices n).replyAddress.isSome = true := by
  have last := sound.lastPublished unknown calls n
  cases known : (c.before choices n).replyAddress with
  | some other => rfl
  | none =>
      rw [known] at last
      exact absurd publishes (last p before address)

end Mediation.Coordinator
