import Mediation.Proofs.Coordinator.Bystanders

/-!
# What a turn leaves alone

Between two points where it waits a task may settle registrations, publish the reply address, or
send a request whose reply comes as a task of its own. All of these leave every task where it
stands, and the coordinator in its phase (`Tends`). Then the task waits at another point, ends, or
stays where it is (`Acts`). That is so for every turn but that of a stop (`acts_runJob`): whatever a
task does, the others are none of its business, and it ends at most once.
-/

set_option autoImplicit false

namespace Mediation

/-- Whether a job is that of the sweeper. -/
def Job.isSweep : Job → Bool
  | .sweep _ => true
  | _ => false

/-- Whether a job is that of a reply that a transport has on its way. -/
def Job.isErrand : Job → Bool
  | .deliver _ | .carried _ _ => true
  | _ => false

namespace Coordinator

variable {c d e : Coordinator} {task other : TaskId} {job next : Job}

/-! ## Jobs by number -/

/-- The tasks have the numbers below that of the next one. -/
def Numbered (c : Coordinator) : Prop := ∀ entry ∈ c.tasks, entry.1 < c.begun

theorem Numbered.lt_begun (numbered : c.Numbered) (standing : c.job? task = some job) :
    task < c.begun := by
  obtain ⟨entry, found, _⟩ := Option.map_eq_some_iff.mp standing
  have own : entry.1 = task := by simpa using List.find?_some found
  exact own ▸ numbered entry (List.mem_of_find?_eq_some found)

theorem job?_append (c : Coordinator) (job : Job) (ready : List TaskId) (other : TaskId) :
    { c with tasks := c.tasks ++ [(c.begun, job)], ready, begun := c.begun + 1 }.job? other =
      (c.job? other).or (if c.begun = other then some job else none) := by
  simp only [job?, List.find?_append, Option.map_or]
  congr 1
  by_cases same : c.begun = other <;> simp [same]

theorem Numbered.append (numbered : c.Numbered) (job : Job) (ready : List TaskId) :
    { c with tasks := c.tasks ++ [(c.begun, job)], ready, begun := c.begun + 1 }.Numbered := by
  intro entry member
  rcases List.mem_append.mp member with old | new
  · exact Nat.lt_succ_of_lt (numbered entry old)
  · rw [List.mem_singleton.mp new]
    exact Nat.lt_succ_self _

theorem job?_spawn (c : Coordinator) (job : Job) (other : TaskId) :
    (c.spawn job).1.job? other =
      (c.job? other).or (if c.begun = other then some job else none) :=
  c.job?_append job _ other

theorem Numbered.spawn (numbered : c.Numbered) (job : Job) : (c.spawn job).1.Numbered :=
  numbered.append job _

theorem job?_park (c : Coordinator) (task : TaskId) (job : Job) (other : TaskId) :
    (c.park task job).job? other =
      if other = task then (c.job? task).map fun _ => job else c.job? other := by
  have numbers : (fun entry : TaskId × Job =>
      decide ((if entry.1 = task then (task, job) else entry).1 = other)) =
        fun entry => decide (entry.1 = other) := by
    funext entry
    split
    · next own => rw [own]
    · rfl
  simp only [job?, park, List.find?_map, Function.comp_def, numbers, Option.map_map]
  split
  · next same =>
      subst same
      cases found : c.tasks.find? (fun entry => decide (entry.1 = other)) with
      | none => rfl
      | some entry =>
          have own : entry.1 = other := by simpa using List.find?_some found
          simp [own]
  · next apart =>
      cases found : c.tasks.find? (fun entry => decide (entry.1 = other)) with
      | none => rfl
      | some entry =>
          have own : entry.1 = other := by simpa using List.find?_some found
          simp [own, apart]

theorem Numbered.park (numbered : c.Numbered) (task : TaskId) (job : Job) :
    (c.park task job).Numbered := by
  intro entry member
  obtain ⟨before, inside, rfl⟩ := List.mem_map.mp member
  split
  · next own => exact own ▸ numbered before inside
  · exact numbered before inside

theorem job?_discard (c : Coordinator) (gone : List TaskId) (other : TaskId) :
    (c.discard gone).job? other = if other ∈ gone then none else c.job? other := by
  have picks : (fun entry : TaskId × Job =>
      !gone.contains entry.1 && decide (entry.1 = other)) =
        fun entry => decide (other ∉ gone) && decide (entry.1 = other) := by
    funext entry
    by_cases own : entry.1 = other <;> simp [own]
  simp only [job?, discard, List.find?_filter, Bool.decide_and, Bool.decide_eq_true, picks]
  split
  · next inside => simp [inside]
  · next outside => simp [outside]

theorem Numbered.discard (numbered : c.Numbered) (gone : List TaskId) :
    (c.discard gone).Numbered :=
  fun entry member => numbered entry (List.mem_filter.mp member).1

theorem job?_finish_of_ne (c : Coordinator) (report : Report) (apart : other ≠ task) :
    (c.finish task report).job? other = c.job? other := by
  have discarded : (c.discard [task]).job? other = c.job? other := by
    rw [job?_discard, if_neg (by simpa using apart)]
  exact discarded

theorem Numbered.finish (numbered : c.Numbered) (task : TaskId) (report : Report) :
    (c.finish task report).Numbered :=
  numbered.discard [task]

/-! ## What a task waits for -/

/-- Whether the verdict on a ticket is still to be collected. -/
def awaited? (c : Coordinator) (ticket : Ticket) : Option Bool :=
  (c.handoffs[ticket]?).map (·.awaited)

/-- What a request waits for has come: the reply address, or the end of the wait for it, the answer
of its transport, or the verdict. -/
def Cued (c : Coordinator) : Job → Prop
  | .request _ _ none | .sent _ _ _ _ => True
  | .request _ _ (some deadline) => c.replyAddress.isSome ∨ Instant.tick deadline ≤ c.now
  | .suspended ticket => (c.verdict? ticket).isSome
  | _ => False

theorem cued_of_same (now : d.now = c.now) (replyAddress : d.replyAddress = c.replyAddress)
    (verdicts : ∀ ticket, d.verdict? ticket = c.verdict? ticket) (cued : d.Cued job) :
    c.Cued job := by
  unfold Cued at cued ⊢
  split at cued
  · trivial
  · trivial
  · rwa [← now, ← replyAddress]
  · rwa [← verdicts]
  · exact cued

theorem Cued.lasting (cued : c.Cued job) : job.isErrand = false := by
  cases job <;> first | rfl | exact absurd cued id

theorem ready_wakeWhere {waits : Job → Bool} (standing : c.job? task = some job)
    (due : waits job = true) : task ∈ (c.wakeWhere waits).ready := by
  obtain ⟨entry, found, rfl⟩ := Option.map_eq_some_iff.mp standing
  have own : entry.1 = task := by simpa using List.find?_some found
  refine mem_wake.mpr (.inr (List.mem_map.mpr ⟨entry, ?_, own⟩))
  exact List.mem_filter.mpr ⟨List.mem_of_find?_eq_some found, due⟩

/-! ## Moves that leave the tasks where they stand -/

/-- From `c` to `d` nobody has collected a verdict. -/
structure Uncollected (c d : Coordinator) : Prop where
  tickets : c.handoffs.length ≤ d.handoffs.length
  awaited : ∀ {ticket}, ticket < c.handoffs.length → d.awaited? ticket = c.awaited? ticket

theorem Uncollected.trans (first : Uncollected c d) (second : Uncollected d e) :
    Uncollected c e where
  tickets := Nat.le_trans first.tickets second.tickets
  awaited known :=
    (second.awaited (Nat.lt_of_lt_of_le known first.tickets)).trans (first.awaited known)

theorem uncollected_of_eq (handoffs : d.handoffs = c.handoffs) : Uncollected c d where
  tickets := Nat.le_of_eq (by rw [handoffs])
  awaited _ := by rw [awaited?, handoffs, awaited?]

/-- From `c` to `d` all tasks stand where they stood, and those can run for whom something has come
that they wait for. New ones carry replies, and the coordinator runs as before. -/
structure Tends (c d : Coordinator) : Prop extends Uncollected c d where
  begun : c.begun ≤ d.begun
  numbered : c.Numbered → d.Numbered
  kept : ∀ {task job}, c.job? task = some job → d.job? task = some job
  old : ∀ {task job}, d.job? task = some job →
    c.job? task = some job ∨ c.begun ≤ task ∧ job.isErrand = true
  ready : c.ready ⊆ d.ready
  rouses : ∀ {task job}, c.job? task = some job → d.Cued job → c.Cued job ∨ task ∈ d.ready
  ended : d.ended = c.ended
  background : d.background = c.background
  lifecycle : d.lifecycle = c.lifecycle
  config : d.config = c.config
  now : d.now = c.now
  dissolved : d.dissolved = c.dissolved

/-- From `c` to `d` nothing has happened to tasks, and the coordinator runs as before. -/
structure Same (c d : Coordinator) : Prop where
  tasks : d.tasks = c.tasks := by rfl
  begun : d.begun = c.begun := by rfl
  ended : d.ended = c.ended := by rfl
  background : d.background = c.background := by rfl
  lifecycle : d.lifecycle = c.lifecycle := by rfl
  config : d.config = c.config := by rfl
  now : d.now = c.now := by rfl
  dissolved : d.dissolved = c.dissolved := by rfl

theorem Same.job? (same : Same c d) (task : TaskId) : d.job? task = c.job? task := by
  rw [Coordinator.job?, same.tasks, Coordinator.job?]

theorem Same.tends (same : Same c d) (ready : c.ready ⊆ d.ready)
    (rouses : ∀ {task job}, c.job? task = some job → d.Cued job → c.Cued job ∨ task ∈ d.ready)
    (uncollected : Uncollected c d) : Tends c d where
  toUncollected := uncollected
  begun := Nat.le_of_eq same.begun.symm
  numbered numbered := by rwa [Numbered, same.tasks, same.begun]
  kept standing := by rwa [same.job?]
  old standing := by
    rw [same.job?] at standing
    exact .inl standing
  ready := ready
  rouses := rouses
  ended := same.ended
  background := same.background
  lifecycle := same.lifecycle
  config := same.config
  now := same.now
  dissolved := same.dissolved

/-- A move that also leaves the reply address alone, and all verdicts. -/
theorem tends_of_same (same : Same c d) (ready : c.ready ⊆ d.ready)
    (handoffs : d.handoffs = c.handoffs) (replyAddress : d.replyAddress = c.replyAddress) :
    Tends c d :=
  same.tends ready
    (fun _ cued => .inl (cued_of_same same.now replyAddress
      (fun ticket => by rw [verdict?, handoffs, verdict?]) cued))
    (uncollected_of_eq handoffs)

theorem Tends.refl (c : Coordinator) : Tends c c :=
  tends_of_same {} (List.Subset.refl _) rfl rfl

theorem Tends.trans (first : Tends c d) (second : Tends d e) : Tends c e where
  toUncollected := first.toUncollected.trans second.toUncollected
  begun := Nat.le_trans first.begun second.begun
  numbered := second.numbered ∘ first.numbered
  kept standing := second.kept (first.kept standing)
  old standing := by
    rcases second.old standing with before | ⟨late, errand⟩
    · exact first.old before
    · exact .inr ⟨Nat.le_trans first.begun late, errand⟩
  ready := List.Subset.trans first.ready second.ready
  rouses standing cued := by
    rcases second.rouses (first.kept standing) cued with before | can
    · exact (first.rouses standing before).imp_right fun can => second.ready can
    · exact .inr can
  ended := second.ended.trans first.ended
  background := second.background.trans first.background
  lifecycle := second.lifecycle.trans first.lifecycle
  config := second.config.trans first.config
  now := second.now.trans first.now
  dissolved := second.dissolved.trans first.dissolved

theorem Tends.signalled (tends : Tends c d) : d.signalled = c.signalled := by
  rw [Coordinator.signalled, tends.lifecycle, tends.dissolved, Coordinator.signalled]

/-- A job that is no errand is where it was. -/
theorem Tends.job?_iff (tends : Tends c d) (lasting : job.isErrand = false) :
    d.job? task = some job ↔ c.job? task = some job := by
  refine ⟨fun standing => (tends.old standing).resolve_right ?_, tends.kept⟩
  rintro ⟨_, errand⟩
  rw [lasting] at errand
  exact Bool.false_ne_true errand

theorem ready_subset_wake (c : Coordinator) (tasks : List TaskId) :
    c.ready ⊆ (c.wake tasks).ready :=
  fun _ can => mem_wake.mpr (.inl can)

/-- Whoever waits for the verdict on a ticket can run once it has changed. -/
theorem tends_settleTicket (c : Coordinator) (ticket : Ticket) {change : Handoff → Handoff}
    (keeps : ∀ handoff, (change handoff).awaited = handoff.awaited) :
    Tends c (c.settleTicket ticket change) := by
  have settled : ∀ {other : Ticket}, other ≠ ticket →
      (c.settleTicket ticket change).verdict? other = c.verdict? other := fun {other} apart => by
    change ((c.handoffs.modify ticket change)[other]?).bind _ = _
    rw [List.getElem?_modify, verdict?]
    cases c.handoffs[other]? <;> simp [apart.symm]
  refine Same.tends {} (ready_subset_wake _ _) (fun {task job} standing cued => ?_) ⟨?_, ?_⟩
  · cases job with
    | suspended other =>
        by_cases own : other = ticket
        · exact .inr (ready_wakeWhere (c := { c with handoffs := _ }) standing
            (by simp [Job.awaits, own]))
        · refine .inl ?_
          rwa [Cued, settled own] at cued
    | request x timeout waiting => cases waiting <;> exact .inl cued
    | sent x id timeout answer => exact .inl trivial
    | _ => exact absurd cued id
  · exact Nat.le_of_eq (List.length_modify ..).symm
  · intro other _
    change ((c.handoffs.modify ticket change)[other]?).map _ = _
    rw [List.getElem?_modify, awaited?]
    cases c.handoffs[other]? with
    | none => rfl
    | some handoff => by_cases own : ticket = other <;> simp [own, keeps]

theorem tends_complete (c : Coordinator) (ticket : Ticket) (x : Exchange) (synchronous : Bool) :
    Tends c (c.complete ticket x synchronous) :=
  c.tends_settleTicket ticket fun handoff => by
    unfold Handoff.complete
    split
    · rfl
    · split <;> rfl

theorem tends_supersede (c : Coordinator) (ticket : Ticket) : Tends c (c.supersede ticket) :=
  c.tends_settleTicket ticket fun handoff => by
    unfold Handoff.supersede
    split <;> rfl

theorem tends_opened (c : Coordinator) : Tends c c.opened := by
  have verdicts : ∀ ticket, c.opened.verdict? ticket = c.verdict? ticket := fun ticket => by
    change ((c.handoffs ++ [Handoff.fresh])[ticket]?).bind _ = _
    rw [verdict?]
    rcases Nat.lt_or_ge ticket c.handoffs.length with old | new
    · rw [List.getElem?_append_left old]
    · rw [List.getElem?_append_right new, List.getElem?_eq_none new]
      cases ticket - c.handoffs.length <;> rfl
  refine Same.tends {} (List.Subset.refl _)
    (fun _ cued => .inl (cued_of_same (d := c.opened) rfl rfl verdicts cued))
    ⟨?_, fun {ticket} old => ?_⟩
  · simp [opened]
  · change ((c.handoffs ++ [Handoff.fresh])[ticket]?).map _ = _
    rw [List.getElem?_append_left old, awaited?]

theorem tends_append {ready : List TaskId} (c : Coordinator) (errand : job.isErrand = true)
    (more : c.ready ⊆ ready) :
    Tends c { c with tasks := c.tasks ++ [(c.begun, job)], ready, begun := c.begun + 1 } where
  begun := Nat.le_succ _
  numbered numbered := numbered.append job ready
  kept standing := by rw [job?_append, standing, Option.some_or]
  old standing := by
    rw [job?_append, Option.or_eq_some_iff] at standing
    rcases standing with there | ⟨_, begins⟩
    · exact .inl there
    · split at begins
      · next new => exact .inr ⟨Nat.le_of_eq new, Option.some.inj begins ▸ errand⟩
      · simp at begins
  ready := more
  toUncollected := uncollected_of_eq rfl
  rouses _ cued := .inl (cued_of_same rfl rfl (fun _ => rfl) cued)
  ended := rfl
  background := rfl
  lifecycle := rfl
  config := rfl
  now := rfl
  dissolved := rfl

theorem tends_carry (c : Coordinator) (reply : Option (Message × Duration)) :
    Tends c (c.carry reply) := by
  cases reply with
  | none => exact .refl c
  | some carried =>
      obtain ⟨message, time⟩ := carried
      simp only [carry]
      split
      · exact c.tends_append rfl (List.subset_append_left _ _)
      · exact c.tends_append rfl (List.Subset.refl _)

theorem tends_adopt (c : Coordinator) (placement : Registry.Placement) :
    Tends c (c.adopt placement) := by
  let placed := { c with registry := placement.registry }.wake placement.woken
  have first : Tends c placed :=
    tends_of_same {} (ready_subset_wake _ _) rfl rfl
  cases displaced : placement.displaced with
  | none =>
      simp only [adopt, displaced]
      exact first
  | some entry =>
      simp only [adopt, displaced]
      exact first.trans (placed.tends_supersede entry.ticket)

theorem tends_rekey (c : Coordinator) (source target : String) :
    Tends c (c.rekey source target).1 :=
  c.tends_adopt _

theorem tends_enrol {x : Exchange} {id : String} {timeout : Duration} {ticket : Ticket}
    (enrols : c.enrol x id timeout = .ok (d, ticket)) : Tends c d := by
  rcases c.enrol_cases x id timeout with
    ⟨_, refused⟩ | ⟨_, _, panics⟩ | ⟨placement, _, _, placed⟩
  · rw [refused, Except.ok.injEq, Prod.mk.injEq] at enrols
    rw [← enrols.1]
    exact c.tends_opened.trans (c.opened.tends_complete _ _ _)
  · rw [panics] at enrols
    simp at enrols
  · rw [placed, Except.ok.injEq, Prod.mk.injEq] at enrols
    rw [← enrols.1]
    exact c.tends_opened.trans (c.opened.tends_adopt placement)

theorem tends_provisionalId (c : Coordinator) (x : Exchange) : Tends c (c.provisionalId x).1 := by
  unfold provisionalId
  split
  · exact .refl c
  · exact tends_of_same {} (List.Subset.refl _) rfl rfl

theorem tends_process (c : Coordinator) (holder : Holder) : Tends c (c.process holder) := by
  unfold process
  split
  · exact c.tends_complete _ _ _
  · split
    · next reply _ =>
        let counted := { c with
          tally := (c.tally.count .repliesMatched).observe .replyLatency (c.latency holder) }
        have counts : Tends c counted :=
          tends_of_same {} (List.Subset.refl _) rfl rfl
        exact counts.trans (counted.tends_complete _ _ _)
    · exact c.tends_complete _ _ _

/-- Whoever waits for the reply address can run once it is published. -/
theorem tends_publish (c : Coordinator) (address : String) : Tends c (c.publish address) := by
  refine Same.tends {} (ready_subset_wake _ _) (fun {task job} standing cued => ?_)
    (uncollected_of_eq rfl)
  cases job with
  | request x timeout waiting =>
      exact .inr (ready_wakeWhere (c := { c with replyAddress := some address }) standing rfl)
  | sent x id timeout answer => exact .inl trivial
  | suspended ticket => exact .inl cued
  | _ => exact absurd cued id

theorem tends_foldl {Item : Type} {act : Coordinator → Item → Coordinator}
    (acts : ∀ c item, Tends c (act c item)) (items : List Item) (c : Coordinator) :
    Tends c (items.foldl act c) := by
  induction items generalizing c with
  | nil => exact .refl c
  | cons item rest ih => exact (acts c item).trans (ih (act c item))

theorem tends_sweepAt (c : Coordinator) (instant : Instant) (counting : Bool) :
    Tends c (c.sweepAt instant counting).1 := by
  have taken : Tends c { c with registry := (c.registry.sweep instant).1 } :=
    tends_of_same {} (List.Subset.refl _) rfl rfl
  refine taken.trans (tends_foldl (fun c holder => ?_) _ _)
  have counted : Tends c
      (if counting then { c with tally := c.tally.count .repliesTimedOut } else c) := by
    split
    · exact tends_of_same {} (List.Subset.refl _) rfl rfl
    · exact .refl c
  exact counted.trans (tends_process _ holder)

theorem tends_drain (c : Coordinator) : Tends c c.drain := by
  have taken : Tends c { c with registry := c.registry.drain.1 } :=
    tends_of_same {} (List.Subset.refl _) rfl rfl
  refine taken.trans (tends_foldl (fun c (holder : Holder) => ?_) _ _)
  exact c.tends_complete holder.ticket _ _

/-! ## Turns -/

/-- A look that collects a verdict leaves it where it is. -/
theorem verdict?_looked {ticket : Ticket} {after : Handoff} {verdict : Verdict}
    (looks : (c.handoffs.getD ticket Handoff.fresh).look = (after, .collected verdict))
    (other : Ticket) :
    { c with handoffs := c.handoffs.set ticket after }.verdict? other = c.verdict? other := by
  obtain ⟨found, rfl⟩ := look_collected looks
  change ((c.handoffs.set ticket _)[other]?).bind _ = _
  rw [List.getElem?_set, verdict?]
  split
  · next same =>
      subst same
      split
      · next known => simp [List.getD_eq_getElem?_getD, known, Handoff.abandon]
      · next unknown => simp [List.getElem?_eq_none (Nat.not_lt.mp unknown)]
  · rfl

/-- What the turn of a task comes to that stands at a job: it stays there, waits at another job,
ends, or ends with the verdict on a ticket. The ticket is the one that it waits for already, or that
of a new registration. -/
inductive Acts (c : Coordinator) (task : TaskId) (job : Job) : Coordinator → Prop
  | stays {d : Coordinator} (tends : Tends c d) : c.Acts task job d
  | waits {d : Coordinator} (tends : Tends c d) (next : Job) (sweeps : next.isSweep = job.isSweep)
      (live : next.isStop = false)
      (own : ∀ ticket, Job.awaits ticket next = true → Job.awaits ticket job = true ∨
        c.handoffs.length ≤ ticket ∧ ticket < d.handoffs.length) :
      c.Acts task job (d.park task next)
  | ends {d : Coordinator} (tends : Tends c d) (report : Report) :
      c.Acts task job (d.finish task report)
  | collects {d : Coordinator} (tends : Tends c d) (ticket : Ticket) (after : Handoff)
      (verdict : Verdict)
      (looks : (d.handoffs.getD ticket Handoff.fresh).look = (after, .collected verdict))
      (own : Job.awaits ticket job = true ∨ c.handoffs.length ≤ ticket) (report : Report) :
      c.Acts task job ({ d with handoffs := d.handoffs.set ticket after }.finish task report)

theorem Acts.after (tends : Tends c d) (acts : d.Acts task job e) : c.Acts task job e := by
  have late : ∀ {ticket : Ticket}, d.handoffs.length ≤ ticket → c.handoffs.length ≤ ticket :=
    fun new => Nat.le_trans tends.tickets new
  cases acts with
  | stays later => exact .stays (tends.trans later)
  | waits later next sweeps live own =>
      exact .waits (tends.trans later) next sweeps live fun ticket due =>
        (own ticket due).imp_right fun new => ⟨late new.1, new.2⟩
  | ends later report => exact .ends (tends.trans later) report
  | collects later ticket after verdict looks own report =>
      exact .collects (tends.trans later) ticket after verdict looks (own.imp_right late) report

/-- A task collects the verdict on a ticket that is its own, or waits for it. -/
theorem acts_collect (tends : Tends c d) (task : TaskId) (ticket : Ticket)
    (idle : job.isSweep = false)
    (own : Job.awaits ticket job = true ∨
      c.handoffs.length ≤ ticket ∧ ticket < d.handoffs.length) :
    c.Acts task job (d.collect task ticket) := by
  cases looks : (d.handoffs.getD ticket Handoff.fresh).look with
  | mk after sight =>
      cases sight with
      | collected verdict =>
          cases verdict <;>
            · simp only [collect, looks]
              exact .collects tends ticket after _ looks (own.imp_right (·.1)) _
      | _ =>
          simp only [collect, looks]
          refine .waits tends _ idle.symm rfl fun other due => ?_
          obtain rfl : ticket = other := by simpa [Job.awaits] using due
          exact own

theorem acts_see (c : Coordinator) (task : TaskId) (ticket : Ticket)
    (own : Job.awaits ticket job = true) : c.Acts task job (c.see task ticket) := by
  cases looks : (c.handoffs.getD ticket Handoff.fresh).look with
  | mk after sight =>
      cases sight with
      | collected verdict =>
          simp only [see, looks]
          exact .collects (.refl c) ticket after verdict looks (.inl own) _
      | _ =>
          simp only [see, looks]
          exact .stays (.refl c)

/-- The ticket of a registration is the next one, and its verdict is still to be collected. -/
theorem ticket_of_enrol {x : Exchange} {id : String} {timeout : Duration} {ticket : Ticket}
    (enrols : c.enrol x id timeout = .ok (d, ticket)) :
    ticket = c.handoffs.length ∧ ticket < d.handoffs.length ∧ d.awaited? ticket = some true := by
  have grown : c.handoffs.length < c.opened.handoffs.length := by simp [opened]
  have fresh : c.opened.awaited? c.handoffs.length = some true := by
    simp [awaited?, opened, Handoff.fresh]
  have whole : ∀ {d : Coordinator}, Tends c.opened d → c.handoffs.length = c.handoffs.length ∧
      c.handoffs.length < d.handoffs.length ∧ d.awaited? c.handoffs.length = some true :=
    fun tends => ⟨rfl, Nat.lt_of_lt_of_le grown tends.tickets, (tends.awaited grown).trans fresh⟩
  rcases c.enrol_cases x id timeout with ⟨_, refused⟩ | ⟨_, _, panics⟩ | ⟨placement, _, _, placed⟩
  · rw [refused, Except.ok.injEq, Prod.mk.injEq] at enrols
    rw [← enrols.1, ← enrols.2]
    exact whole (c.opened.tends_complete _ _ _)
  · rw [panics] at enrols
    simp at enrols
  · rw [placed, Except.ok.injEq, Prod.mk.injEq] at enrols
    rw [← enrols.1, ← enrols.2]
    exact whole (c.opened.tends_adopt placement)

theorem acts_settleSend (c : Coordinator) (task : TaskId) (x : Exchange) (id : String)
    (timeout : Duration) (answer : Except Failure (Option String)) (idle : job.isSweep = false) :
    c.Acts task job (c.settleSend task x id timeout answer) := by
  cases answer with
  | error failure => exact .ends (.refl c) _
  | ok assigned =>
      cases enrols : c.enrol x id timeout with
      | error panic =>
          simp only [settleSend, enrols]
          exact .ends (.refl c) _
      | ok outcome =>
          obtain ⟨enrolled, ticket⟩ := outcome
          have entered : Tends c enrolled := tends_enrol enrols
          obtain ⟨next, known, _⟩ := ticket_of_enrol enrols
          simp only [settleSend, enrols]
          split
          · next target _ =>
              have moves := enrolled.tends_rekey id target
              exact acts_collect (entered.trans moves) task ticket idle
                (.inr ⟨Nat.le_of_eq next.symm, Nat.lt_of_lt_of_le known moves.tickets⟩)
          · exact acts_collect entered task ticket idle (.inr ⟨Nat.le_of_eq next.symm, known⟩)

/-- What the transport answers to a request that is sent now. -/
def sendAnswer (c : Coordinator) (x : Exchange) (address : String) :
    Except Failure (Option String) :=
  ((c.provisionalId x).1.transport.send x.inbound address (c.provisionalId x).2).answer

theorem carry_registry (c : Coordinator) (reply : Option (Message × Duration)) :
    (c.carry reply).registry = c.registry := by
  cases reply with
  | none => rfl
  | some carried =>
      simp only [carry]
      split <;> rfl

/-- A request that is sent is where the answer of its transport finds it. -/
theorem sendRequest_tends (c : Coordinator) (task : TaskId) (x : Exchange) (timeout : Duration)
    (address : String) :
    ∃ sent, Tends c sent ∧ Quiet c sent ∧ sent.registry = c.registry ∧
      c.sendRequest task x timeout address =
        sent.settleSend task x (c.provisionalId x).2 timeout (c.sendAnswer x address) := by
  let named := c.provisionalId x
  let dispatch := named.1.transport.send x.inbound address named.2
  let launched := { named.1 with transport := dispatch.transport }
  have launches : Tends named.1 launched := tends_of_same {} (List.Subset.refl _) rfl rfl
  have quietly : Quiet named.1 launched := ⟨⟨rfl, rfl, rfl, id⟩, rfl, rfl, rfl⟩
  have names : named.1.registry = c.registry := by
    simp only [named, provisionalId]
    split <;> rfl
  exact ⟨launched.carry dispatch.reply,
    (c.tends_provisionalId x).trans (launches.trans (launched.tends_carry dispatch.reply)),
    ((c.quiet_provisionalId x).trans quietly).trans (launched.quiet_carry dispatch.reply),
    (launched.carry_registry dispatch.reply).trans names, rfl⟩

theorem acts_seekAddress (c : Coordinator) (task : TaskId) (x : Exchange) (timeout : Duration)
    (waiting : Option Instant) (idle : job.isSweep = false) :
    c.Acts task job (c.seekAddress task x timeout waiting) := by
  unfold seekAddress
  split
  · next address _ =>
      obtain ⟨sent, tends, _, _, sends⟩ := c.sendRequest_tends task x timeout address
      rw [sends]
      exact .after tends (sent.acts_settleSend task x _ timeout _ idle)
  · split
    · exact .ends (.refl c) _
    · split
      · exact .ends (.refl c) _
      · exact .waits (.refl c) _ idle.symm rfl (by simp [Job.awaits])

theorem acts_askAddress (c : Coordinator) (task : TaskId) (waiting : Option Instant)
    (idle : job.isSweep = false) : c.Acts task job (c.askAddress task waiting) := by
  unfold askAddress
  split
  · exact .ends (.refl c) _
  · split
    · exact .ends (.refl c) _
    · split
      · exact .ends (.refl c) _
      · exact .waits (.refl c) _ idle.symm rfl (by simp [Job.awaits])

theorem acts_orphan (c : Coordinator) (task : TaskId) (carried : Bool) :
    c.Acts task job (c.orphan task carried) := by
  have counts : Tends c { c with tally := c.tally.count .repliesOrphaned } :=
    tends_of_same {} (List.Subset.refl _) rfl rfl
  exact .ends counts _

theorem acts_matchReply (c : Coordinator) (task : TaskId) (id : String) (message : Message)
    (carried : Bool) {unmatched : Coordinator → Coordinator}
    (otherwise : c.Acts task job (unmatched c)) :
    c.Acts task job (c.matchReply task id message carried unmatched) := by
  unfold matchReply
  split
  · next registry holder _ =>
      have taken : Tends c { c with registry } :=
        tends_of_same {} (List.Subset.refl _) rfl rfl
      exact .ends (taken.trans (tends_process _ holder)) _
  · exact otherwise

theorem acts_afterWait (c : Coordinator) (task : TaskId) (message : Message) (id : String)
    (carried : Bool) (outcome : Registry × Registry.WaitState) (idle : job.isSweep = false) :
    c.Acts task job (c.afterWait task message id carried outcome) := by
  obtain ⟨registry, state⟩ := outcome
  let waited := { c with registry }
  have waits : Tends c waited :=
    tends_of_same {} (List.Subset.refl _) rfl rfl
  match state with
  | .parked => exact .waits waits _ idle.symm rfl (by simp [Job.awaits])
  | .beyondClock => exact .ends waits _
  | .over true =>
      have matched : waited.Acts task job
          (waited.matchReply task id message carried fun c => c.orphan task carried) :=
        waited.acts_matchReply task id message carried (waited.acts_orphan task carried)
      exact .after waits matched
  | .over false => exact .after waits (waited.acts_orphan task carried)

theorem acts_receive (c : Coordinator) (task : TaskId) (message : Message) (carried : Bool)
    (idle : job.isSweep = false) : c.Acts task job (c.receive task message carried) := by
  unfold receive
  split
  · have counts : Tends c { c with tally := c.tally.count .repliesMalformed } :=
      tends_of_same {} (List.Subset.refl _) rfl rfl
    exact .ends counts _
  · let early := { c with tally := c.tally.count .repliesEarly }
    have counts : Tends c early :=
      tends_of_same {} (List.Subset.refl _) rfl rfl
    exact c.acts_matchReply task _ message carried
      (.after counts (early.acts_afterWait task message _ carried _ idle))

theorem acts_handOver (c : Coordinator) (task : TaskId) (message : Message)
    (idle : job.isSweep = false) : c.Acts task job (c.handOver task message) := by
  unfold handOver
  split
  · exact .ends (.refl c) _
  · split
    · exact .ends (.refl c) _
    · exact c.acts_receive task message true idle

theorem acts_runSweeper (c : Coordinator) (task : TaskId) (next : Option Instant)
    (sweeps : job.isSweep = true) : c.Acts task job (c.runSweeper task next) := by
  cases next with
  | none =>
      simp only [runSweeper]
      split
      · exact .ends (.refl c) _
      · split
        · exact .ends (.refl c) _
        · exact .waits (.refl c) _ sweeps.symm rfl (by simp [Job.awaits])
  | some next =>
      simp only [runSweeper]
      split
      · split
        · exact .ends (c.tends_sweepAt c.now true) _
        · exact .waits (c.tends_sweepAt c.now true) _ sweeps.symm rfl (by simp [Job.awaits])
      · split
        · exact .ends (.refl c) _
        · exact .stays (.refl c)

theorem acts_runResolver (c : Coordinator) (task : TaskId) (due : Option Instant)
    (idle : job.isSweep = false) : c.Acts task job (c.runResolver task due) := by
  unfold runResolver
  generalize c.transport.resolution = resolution
  obtain ⟨time, found⟩ := resolution
  simp only
  split
  · cases found with
    | error failure => exact .ends (.refl c) _
    | ok address =>
        simp only
        split
        · exact .ends (.refl c) _
        · exact .ends (c.tends_publish address) _
  · split
    · exact .ends (.refl c) _
    · exact .waits (.refl c) _ idle.symm rfl (by simp [Job.awaits])

/-- **Every turn but that of a stop** leaves the other tasks alone. -/
theorem acts_runJob (c : Coordinator) (task : TaskId) (live : job.isStop = false) :
    c.Acts task job (c.runJob task job) := by
  cases job with
  | request x timeout waiting => exact c.acts_seekAddress task x timeout waiting rfl
  | register x id timeout => exact c.acts_settleSend task x id timeout (.ok none) rfl
  | sent x id timeout answer => exact c.acts_settleSend task x id timeout answer rfl
  | suspended ticket =>
      exact acts_collect (.refl c) task ticket rfl (.inl (by simp [Job.awaits]))
  | watch ticket => exact c.acts_see task ticket (by simp [Job.awaits])
  | reply message => exact c.acts_receive task message false rfl
  | deliver message => exact c.acts_handOver task message rfl
  | carried message due =>
      simp only [runJob]
      split
      · exact c.acts_handOver task message rfl
      · exact .stays (.refl c)
  | early message id carried => exact c.acts_afterWait task message id carried _ rfl
  | query waiting => exact c.acts_askAddress task waiting rfl
  | sweep next => exact c.acts_runSweeper task next rfl
  | resolve due => exact c.acts_runResolver task due rfl
  | stop => simp [Job.isStop] at live
  | join tasks deadline => simp [Job.isStop] at live

end Coordinator

end Mediation
