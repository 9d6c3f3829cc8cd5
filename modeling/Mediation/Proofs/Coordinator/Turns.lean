import Mediation.Proofs.Coordinator.Moves

/-!
# What the turns of a coordinator do to the suspensions

Every turn of a task leads to sound books again, and it ends suspensions only as its deed allows
(`Sound.leads_runJob`). A request registers, a reply answers, the sweeper expires, a stop strands
whoever is left; the other tasks leave the books alone.
-/

set_option autoImplicit false

namespace Mediation

/-! ## Waiting does not touch the requests -/

namespace Registry

theorem endWait_entries (registry : Registry) (token : Token) (id : String) :
    (registry.endWait token id).1.entries = registry.entries := rfl

theorem listen_entries (registry : Registry) (now : Instant) (token : Token) (id : String)
    (deadline : Instant) :
    (registry.listen now token id deadline).1.entries = registry.entries := by
  unfold listen
  split
  · exact registry.endWait_entries token id
  · rfl

theorem joinNotifier_entries (registry : Registry) (id : String) :
    (registry.joinNotifier id).entries = registry.entries := by
  unfold joinNotifier
  split <;> rfl

theorem beginWait_entries (registry : Registry) (now : Instant) (token : Token) (id : String)
    (most : Duration) : (registry.beginWait now token id most).1.entries = registry.entries := by
  have joined := registry.joinNotifier_entries id
  simp only [beginWait]
  split
  · exact joined
  · split
    · exact ((registry.joinNotifier id).endWait_entries token id).trans joined
    · split
      · exact joined
      · exact ((registry.joinNotifier id).listen_entries now token id _).trans joined

theorem continueWait_entries (registry : Registry) (now : Instant) (token : Token) :
    (registry.continueWait now token).1.entries = registry.entries := by
  unfold continueWait
  split
  · rfl
  · split
    · exact registry.listen_entries now token _ _
    · split
      · exact registry.endWait_entries token _
      · rfl

end Registry

namespace Coordinator

open scoped List

variable {c d : Coordinator} {ends : Ticket → Ending → Prop} {task : TaskId}
  {registered : List (Exchange × Duration)}

/-- A deed that registers nothing adds nothing to the books. -/
theorem Leads.of_idle {deed : Deed} (idle : c.registers? deed = none)
    (leads : Leads (Ends c deed) registered [] c d) :
    Leads (Ends c deed) (registered ++ (c.registers? deed).toList) [] c d := by
  rw [idle, Option.toList_none, List.append_nil]
  exact leads

/-! ## Requests -/

/-- **A request that its transport has accepted** is registered, moved to the id that was assigned,
and waits. -/
theorem Sound.leads_settleSend (sound : c.Sound registered []) (enrolment : Enrolment) :
    Leads (Ends c (.enrol enrolment)) (registered ++ (c.registers? (.enrol enrolment)).toList) [] c
      (c.settleSend task enrolment.exchange enrolment.id enrolment.timeout
        (.ok enrolment.assigned)) := by
  cases enrols : c.enrol enrolment.exchange enrolment.id enrolment.timeout with
  | error panic =>
      rw [registers?_of_error enrols, Option.toList_none, List.append_nil]
      simp only [settleSend, enrols]
      exact sound.leads_same (quiet_finish _ _ _).toSameBooks
  | ok outcome =>
      obtain ⟨enrolled, ticket⟩ := outcome
      have entered := sound.leads_enrol enrols
      simp only [settleSend, enrols]
      cases other : enrolment.assigned.filter (fun id => id ≠ enrolment.id) with
      | none => exact entered.trans (entered.sound.leads_collect task ticket)
      | some target =>
          obtain ⟨assigned, apart⟩ := Option.filter_eq_some_iff.mp other
          have different : target ≠ enrolment.id := by simpa using apart
          have moved := entered.sound.leads_rekey enrolment.id target
          refine (entered.trans (moved.mono ?_)).trans (moved.sound.leads_collect task ticket)
          intro displaced ending cause
          cases cause with
          | displacedByRekey _ _ found =>
              rw [enrol_find? enrols different] at found
              exact .displacedByAssigned assigned different.symm found

theorem quiet_provisionalId (c : Coordinator) (x : Exchange) : Quiet c (c.provisionalId x).1 := by
  unfold provisionalId
  split
  · exact .refl c
  · exact ⟨⟨rfl, rfl, rfl, id⟩, rfl, rfl, rfl⟩

theorem Quiet.registers? (quiet : Quiet c d) (deed : Deed) :
    d.registers? deed = c.registers? deed := by
  simp only [Coordinator.registers?, quiet.lifecycle, quiet.now]

/-- A request that has been sent is where the transport's answer finds it; until then the books are
left alone. -/
theorem sendRequest_cases (c : Coordinator) (task : TaskId) (x : Exchange) (timeout : Duration)
    (address : String) :
    ∃ sent provisional answer, Quiet c sent ∧
      c.sendRequest task x timeout address = sent.settleSend task x provisional timeout answer ∧
      (c.replyAddress = some address → ∀ waiting,
        c.jobDeed (.request x timeout waiting) =
          sent.jobDeed (.sent x provisional timeout answer)) := by
  let named := c.provisionalId x
  let dispatch := named.1.transport.send x.inbound address named.2
  let launched := { named.1 with transport := dispatch.transport }
  have launches : Quiet named.1 launched := ⟨⟨rfl, rfl, rfl, id⟩, rfl, rfl, rfl⟩
  have quiet := ((c.quiet_provisionalId x).trans launches).trans
    (launched.quiet_carry dispatch.reply)
  refine ⟨launched.carry dispatch.reply, named.2, dispatch.answer, quiet, rfl, ?_⟩
  intro known waiting
  simp only [jobDeed, known]
  cases dispatch.answer with
  | ok assigned => rfl
  | error failure => rfl

theorem Sound.leads_sent (sound : c.Sound registered []) (x : Exchange) (id : String)
    (timeout : Duration) (answer : Except Failure (Option String)) :
    Leads (Ends c (c.jobDeed (.sent x id timeout answer)))
      (registered ++ (c.registers? (c.jobDeed (.sent x id timeout answer))).toList) [] c
      (c.settleSend task x id timeout answer) := by
  cases answer with
  | ok assigned => exact sound.leads_settleSend { exchange := x, id, timeout, assigned }
  | error failure =>
      exact .of_idle rfl (sound.leads_same (c.quiet_finish task _).toSameBooks)

/-- Someone who has to wait for the reply address leaves the books alone. -/
theorem quiet_awaitAddress (c : Coordinator) (x : Exchange) (timeout : Duration)
    (waiting : Option Instant) (unknown : c.replyAddress = none) :
    Quiet c (c.seekAddress task x timeout waiting) := by
  simp only [seekAddress, unknown]
  split
  · exact c.quiet_finish task _
  · split
    · exact c.quiet_finish task _
    · exact c.quiet_park task trivial

theorem Sound.leads_request (sound : c.Sound registered []) (x : Exchange) (timeout : Duration)
    (waiting : Option Instant) :
    Leads (Ends c (c.jobDeed (.request x timeout waiting)))
      (registered ++ (c.registers? (c.jobDeed (.request x timeout waiting))).toList) [] c
      (c.seekAddress task x timeout waiting) := by
  cases known : c.replyAddress with
  | none =>
      have idle : c.jobDeed (.request x timeout waiting) = .other := by simp [jobDeed, known]
      rw [idle]
      exact .of_idle rfl
        (sound.leads_same (c.quiet_awaitAddress x timeout waiting known).toSameBooks)
  | some address =>
      obtain ⟨sent, provisional, answer, quiet, sends, deeds⟩ :=
        c.sendRequest_cases task x timeout address
      rw [deeds known waiting, ← quiet.registers?]
      simp only [seekAddress, known]
      rw [sends]
      have waits := sound.of_sameBooks quiet.toSameBooks
      exact (waits.leads_sent x provisional timeout answer).after_quiet quiet

/-! ## Replies -/

theorem quiet_orphan (c : Coordinator) (task : TaskId) (carried : Bool) :
    Quiet c (c.orphan task carried) := by
  let counted := { c with tally := c.tally.count .repliesOrphaned }
  have counts : Quiet c counted := ⟨⟨rfl, rfl, rfl, id⟩, rfl, rfl, rfl⟩
  exact counts.trans (counted.quiet_finish task _)

/-- **A reply that finds its request** hands it back; otherwise something else happens. -/
theorem Sound.leads_matchReply (sound : c.Sound registered []) {message : Message} {id : String}
    {carried : Bool} {unmatched : Coordinator → Coordinator}
    (known : message.correlationId? = some id)
    (otherwise : Leads (Ends c (.answer message)) registered [] c (unmatched c)) :
    Leads (Ends c (.answer message)) registered [] c
      (c.matchReply task id message carried unmatched) := by
  rcases Registry.resolve_cases c.registry id message with ⟨_, unchanged⟩ | ⟨entry, found, taken⟩
  · simp only [matchReply, unchanged]
    exact otherwise
  · simp only [matchReply, taken]
    have out : Leads (Ends c (.answer message)) registered [entry] c
        { c with registry := (c.registry.without id).report } := sound.leads_found found
    have answers := out.sound.leads_answer known found rfl
    exact (out.trans answers).then_same (quiet_finish _ _ _).toSameBooks

theorem Sound.leads_afterWait (sound : c.Sound registered []) {message : Message} {id : String}
    {carried : Bool} (known : message.correlationId? = some id)
    (outcome : Registry × Registry.WaitState)
    (entries : outcome.1.entries = c.registry.entries) :
    Leads (Ends c (.answer message)) registered [] c
      (c.afterWait task message id carried outcome) := by
  let waited := { c with registry := outcome.1 }
  have waits : Quiet c waited := ⟨⟨entries, rfl, rfl, fun keyed => keyed⟩, rfl, rfl, rfl⟩
  have clean := sound.of_sameBooks waits.toSameBooks
  obtain ⟨registry, (_ | _) | _ | _⟩ := outcome
  · exact sound.leads_same (waits.trans (waited.quiet_orphan task carried)).toSameBooks
  · have orphaned : Leads (Ends waited (.answer message)) registered [] waited
        (waited.orphan task carried) :=
      clean.leads_same (waited.quiet_orphan task carried).toSameBooks
    have matched : Leads (Ends waited (.answer message)) registered [] waited
        (waited.matchReply task id message carried fun c => c.orphan task carried) :=
      clean.leads_matchReply known orphaned
    exact matched.after_quiet waits
  · have parks : Quiet waited (waited.park task (.early message id carried)) :=
      waited.quiet_park task known
    exact sound.leads_same (waits.trans parks).toSameBooks
  · exact sound.leads_same (waits.trans (waited.quiet_finish task _)).toSameBooks

theorem Sound.leads_receive (sound : c.Sound registered []) (message : Message) (carried : Bool) :
    Leads (Ends c (.answer message)) registered [] c (c.receive task message carried) := by
  cases known : message.correlationId? with
  | none =>
      let counted := { c with tally := c.tally.count .repliesMalformed }
      have counts : Quiet c counted := ⟨⟨rfl, rfl, rfl, id⟩, rfl, rfl, rfl⟩
      simp only [receive, known]
      exact sound.leads_same (counts.trans (counted.quiet_finish task _)).toSameBooks
  | some id =>
      let early := { c with tally := c.tally.count .repliesEarly }
      have counts : Quiet c early := ⟨⟨rfl, rfl, rfl, fun keyed => keyed⟩, rfl, rfl, rfl⟩
      have clean := sound.of_sameBooks counts.toSameBooks
      simp only [receive, known]
      refine sound.leads_matchReply known (Leads.after_quiet counts ?_)
      exact clean.leads_afterWait known _ (early.registry.beginWait_entries _ task id _)

theorem Sound.leads_handOver (sound : c.Sound registered []) (message : Message) :
    Leads (Ends c (.answer message)) registered [] c (c.handOver task message) := by
  unfold handOver
  split
  · exact sound.leads_same (c.quiet_finish task _).toSameBooks
  · split
    · exact sound.leads_same (c.quiet_finish task _).toSameBooks
    · exact sound.leads_receive message true

/-! ## Background tasks -/

/-- **A sweep** times out every request whose deadline has come. -/
theorem Sound.leads_sweepAt (sound : c.Sound registered []) (counting : Bool) :
    Leads (Ends c .sweep) registered [] c (c.sweepAt c.now counting).1 := by
  have split := c.registry.perm_sweep c.now
  have out : Leads (Ends c .sweep) registered (c.registry.expired c.now ++ []) c
      { c with registry := (c.registry.sweep c.now).1 } :=
    sound.leads_taken (sound.keys.sweep c.now) split
  refine out.trans ?_
  change Leads _ _ _ _ (List.foldl _ _ (c.registry.sweep c.now).2)
  rw [Registry.sweep_holders, List.foldl_map]
  refine leads_foldl ?_ out.sound
  intro entry member before hand inHand
  obtain ⟨inside, late⟩ := Registry.mem_expired.mp member
  cases counting with
  | true =>
      let counted := { before with tally := before.tally.count .repliesTimedOut }
      have same : SameBooks before counted := ⟨rfl, rfl, rfl, id⟩
      exact (inHand.leads_same same).trans
        ((inHand.of_sameBooks same).leads_expire (.timedOut inside late))
  | false => exact inHand.leads_expire (.timedOut inside late)

theorem Sound.leads_runSweeper (sound : c.Sound registered []) (next : Option Instant) :
    Leads (Ends c (c.jobDeed (.sweep next))) registered [] c (c.runSweeper task next) := by
  cases next with
  | none =>
      simp only [runSweeper]
      split
      · exact sound.leads_same (c.quiet_finish task _).toSameBooks
      · split
        · exact sound.leads_same (c.quiet_finish task _).toSameBooks
        · exact sound.leads_same (c.quiet_park task (by trivial)).toSameBooks
  | some next =>
      simp only [runSweeper]
      split
      · have swept := sound.leads_sweepAt true
        split
        · exact swept.then_same (quiet_finish _ _ _).toSameBooks
        · exact swept.then_same (quiet_park _ _ (by trivial)).toSameBooks
      · split
        · exact sound.leads_same (c.quiet_finish task _).toSameBooks
        · exact sound.leads_same (Quiet.refl c).toSameBooks

theorem quiet_runResolver (c : Coordinator) (task : TaskId) (due : Option Instant) :
    Quiet c (c.runResolver task due) := by
  unfold runResolver
  generalize c.transport.resolution = resolution
  obtain ⟨time, found⟩ := resolution
  simp only
  split
  · cases found with
    | error failure => exact c.quiet_finish task _
    | ok address =>
        simp only
        split
        · exact c.quiet_finish task _
        · have published : Quiet c (c.publish address) := ⟨⟨rfl, rfl, rfl, id⟩, rfl, rfl, rfl⟩
          exact published.trans (quiet_finish _ task _)
  · split
    · exact c.quiet_finish task _
    · exact c.quiet_park task trivial

theorem quiet_askAddress (c : Coordinator) (task : TaskId) (waiting : Option Instant) :
    Quiet c (c.askAddress task waiting) := by
  unfold askAddress
  split
  · exact c.quiet_finish task _
  · split
    · exact c.quiet_finish task _
    · split
      · exact c.quiet_finish task _
      · exact c.quiet_park task trivial

/-! ## Stopping -/

/-- **A drain** fails every request. -/
theorem Sound.leads_drain (sound : c.Sound registered []) :
    Leads (Ends c .stop) registered [] c c.drain := by
  have split : c.registry.entries ~ c.registry.entries ++ c.registry.drain.1.entries := by
    rw [Registry.drain_entries, List.append_nil]
  have out : Leads (Ends c .stop) registered (c.registry.entries ++ []) c
      { c with registry := c.registry.drain.1 } :=
    sound.leads_taken (Registry.keysDistinct_drain _) split
  refine out.trans ?_
  change Leads _ _ _ _ (List.foldl _ _ c.registry.drain.2)
  rw [Registry.drain_holders, List.foldl_map]
  refine leads_foldl ?_ out.sound
  intro entry member before hand inHand
  exact inHand.leads_strand (.stopped member)

theorem foldl_strand_registry (holders : List Holder) (c : Coordinator) :
    (holders.foldl strand c).registry = c.registry := by
  induction holders generalizing c with
  | nil => rfl
  | cons holder rest ih => exact ih (c.strand holder)

theorem drain_registry (c : Coordinator) : c.drain.registry = c.registry.drain.1 :=
  foldl_strand_registry c.registry.drain.2 { c with registry := c.registry.drain.1 }

theorem Sound.leads_concludeStop (sound : c.Sound registered []) (tasks : List TaskId)
    (joined : Bool) : Leads (Ends c .stop) registered [] c (c.concludeStop task tasks joined) := by
  have general : ∀ {quiet : Coordinator}, Quiet c quiet →
      Leads (Ends c .stop) registered [] c
        ({ quiet.drain with lifecycle := quiet.drain.lifecycle.completeStop }.finish task
          (.stopped (if joined then none else some (.shutdownTimeout tasks.length)))) := by
    intro quiet quietly
    have drained := (sound.of_sameBooks quietly.toSameBooks).leads_drain.after_quiet quietly
    have stopped : SameBooks quiet.drain
        { quiet.drain with lifecycle := quiet.drain.lifecycle.completeStop } :=
      ⟨rfl, rfl, rfl, id⟩
    exact (drained.then_same stopped).then_same (quiet_finish _ _ _).toSameBooks
  cases joined with
  | true => exact general (.refl c)
  | false => exact general (c.quiet_discard tasks)

theorem Sound.leads_joinTasks (sound : c.Sound registered []) (tasks : List TaskId)
    (deadline : Instant) :
    Leads (Ends c .stop) registered [] c (c.joinTasks task tasks deadline) := by
  unfold joinTasks
  split
  · exact sound.leads_concludeStop tasks true
  · split
    · exact sound.leads_concludeStop tasks false
    · exact sound.leads_same (c.quiet_park task (by trivial)).toSameBooks

/-- A stop strands whoever waits, whatever the lifecycle. -/
theorem Ends.stop_of_sameBooks (same : SameBooks c d) {ticket : Ticket} {ending : Ending}
    (cause : Ends d .stop ticket ending) : Ends c .stop ticket ending := by
  cases cause with
  | stopped member =>
      rw [same.entries] at member
      exact .stopped member

/-- The coordinator once a stop has raised the shutdown signal. -/
def withSignal (c : Coordinator) (lifecycle : Lifecycle) : Coordinator :=
  { c with lifecycle, background := [] }.wakeWhere Job.isBackground

theorem sameBooks_withSignal (c : Coordinator) (lifecycle : Lifecycle) :
    SameBooks c (c.withSignal lifecycle) :=
  ⟨rfl, rfl, rfl, id⟩

-- `simp` would do for these three, but the kernel then evaluates the timer's arithmetic.
theorem beginStop_refused (refused : c.lifecycle.beginStop? = none) :
    c.beginStop task = c.finish task (.stopped none) := by
  unfold beginStop
  rw [refused]

theorem beginStop_timed {lifecycle : Lifecycle} {deadline : Instant}
    (begun : c.lifecycle.beginStop? = some lifecycle)
    (timed : c.now.giveUp? c.config.shutdownGrace = some deadline) :
    c.beginStop task = (c.withSignal lifecycle).joinTasks task c.background deadline := by
  unfold beginStop
  rw [begun, timed]
  rfl

theorem beginStop_untimed {lifecycle : Lifecycle}
    (begun : c.lifecycle.beginStop? = some lifecycle)
    (untimed : c.now.giveUp? c.config.shutdownGrace = none) :
    c.beginStop task =
      if c.background.all fun other => (c.job? other).isNone then
        (c.withSignal lifecycle).concludeStop task c.background true
      else (c.withSignal lifecycle).finish task (.panicked beyondClock) := by
  unfold beginStop
  rw [begun, untimed]
  rfl

theorem Sound.leads_beginStop (sound : c.Sound registered []) :
    Leads (Ends c (c.jobDeed .stop)) registered [] c (c.beginStop task) := by
  cases running : c.lifecycle.runAllowed with
  | false =>
      rw [beginStop_refused (by simp [Lifecycle.beginStop?, running])]
      exact sound.leads_same (c.quiet_finish task _).toSameBooks
  | true =>
      have begun : c.lifecycle.beginStop? =
          some { c.lifecycle with phase := .stopping, signal := true } := by
        simp [Lifecycle.beginStop?, running]
      have deed : c.jobDeed .stop = .stop := by simp [jobDeed, running]
      rw [deed]
      have same := c.sameBooks_withSignal { c.lifecycle with phase := .stopping, signal := true }
      have clean := sound.of_sameBooks same
      cases timer : c.now.giveUp? c.config.shutdownGrace with
      | some deadline =>
          rw [beginStop_timed begun timer]
          exact (sound.leads_same same).trans
            ((clean.leads_joinTasks c.background _).mono fun _ _ => Ends.stop_of_sameBooks same)
      | none =>
          rw [beginStop_untimed begun timer]
          split
          · exact (sound.leads_same same).trans
              ((clean.leads_concludeStop c.background true).mono fun _ _ =>
                Ends.stop_of_sameBooks same)
          · exact (sound.leads_same same).then_same (quiet_finish _ _ _).toSameBooks

/-! ## Turns -/

theorem registers?_stop (c : Coordinator) : c.registers? (c.jobDeed .stop) = none := by
  simp only [jobDeed]
  split <;> rfl

theorem registers?_sweep (c : Coordinator) (next : Option Instant) :
    c.registers? (c.jobDeed (.sweep next)) = none := by
  cases next <;> rfl

/-- **Every turn** ends suspensions only as its deed allows. -/
theorem Sound.leads_runJob (sound : c.Sound registered []) (task : TaskId) (job : Job)
    (keyed : job.Keyed) :
    Leads (Ends c (c.jobDeed job)) (registered ++ (c.registers? (c.jobDeed job)).toList) [] c
      (c.runJob task job) := by
  cases job with
  | request x timeout waiting => exact sound.leads_request x timeout waiting
  | register x id timeout => exact sound.leads_sent x id timeout (.ok none)
  | sent x id timeout answer => exact sound.leads_sent x id timeout answer
  | suspended ticket => exact .of_idle rfl (sound.leads_collect task ticket)
  | watch ticket => exact .of_idle rfl (sound.leads_see task ticket)
  | reply message => exact .of_idle rfl (sound.leads_receive message false)
  | deliver message => exact .of_idle rfl (sound.leads_handOver message)
  | carried message due =>
      refine .of_idle rfl ?_
      simp only [runJob]
      split
      · exact sound.leads_handOver message
      · exact sound.leads_same (Quiet.refl c).toSameBooks
  | early message id carried =>
      have entries := c.registry.continueWait_entries c.now task
      exact .of_idle rfl (sound.leads_afterWait keyed _ entries)
  | query waiting =>
      refine .of_idle rfl ?_
      exact sound.leads_same (c.quiet_askAddress task waiting).toSameBooks
  | sweep next => exact .of_idle (c.registers?_sweep next) (sound.leads_runSweeper next)
  | resolve due =>
      refine .of_idle rfl ?_
      exact sound.leads_same (c.quiet_runResolver task due).toSameBooks
  | stop =>
      refine .of_idle c.registers?_stop ?_
      change Leads _ _ _ c (c.beginStop task)
      exact sound.leads_beginStop
  | join tasks deadline => exact .of_idle rfl (sound.leads_joinTasks tasks deadline)

end Coordinator

end Mediation
