import Mediation.Proofs.Coordinator.Phases
import Mediation.Proofs.Coordinator.Timers

/-!
# Nobody disturbs a request

A request that callers begin is a task of its own. Whatever happens besides its own turns, it stays
where it stands and reports nothing; and if something comes that it waits for, the reply address, a
verdict, or the end of its patience, then it can run (`Undisturbed.step`).

Two things could go wrong. A stop could give the request up: but those that it gives up are
background tasks, which began with a start. And another task could collect its verdict: but the
ticket that a task waits for is that of its own registration, or of the one it watches. Both follow
from what an event can do to the tickets and lists of a coordinator (`Stems`).
-/

set_option autoImplicit false

namespace Mediation.Coordinator

variable {c d e : Coordinator} {task other mine : TaskId} {job next : Job}
  {gone tasks : List TaskId} {books : List (Exchange × Duration)} {ticket : Ticket}
  {choice : Choice} {choices : List Choice} {n : Nat}

/-! ## Where tickets and lists come from -/

/-- A task waits for the verdict on a ticket. -/
def Awaits (c : Coordinator) (task : TaskId) (ticket : Ticket) : Prop :=
  ∃ job, c.job? task = some job ∧ Job.awaits ticket job = true

/-- From `c` to `d`: a ticket that a task waits for is one that it waited for before, or is new.
Only those who wait for a ticket collect its verdict, and then they end. The tasks that a stop waits
for are those that it waited for before, or the background tasks. -/
structure Stems (c d : Coordinator) : Prop where
  begun : c.begun ≤ d.begun
  tickets : c.handoffs.length ≤ d.handoffs.length
  awaits : ∀ {other ticket}, d.Awaits other ticket → c.Awaits other ticket ∨
    c.handoffs.length ≤ ticket ∧ ticket < d.handoffs.length
  awaited : ∀ {ticket}, ticket < c.handoffs.length → d.awaited? ticket = c.awaited? ticket ∨
    ∃ other, c.Awaits other ticket ∧ d.job? other = none
  joins : ∀ {other tasks}, d.Joins other tasks → c.Joins other tasks ∨ tasks = c.background
  background : ∀ {other}, other ∈ d.background → other ∈ c.background ∨
    c.begun ≤ other ∧ other < d.begun
  silent : ∀ {other}, c.begun ≤ other → d.reports other = c.reports other

theorem lasting_of_awaits (awaits : Job.awaits ticket job = true) : job.isErrand = false := by
  cases job <;> first | rfl | simp [Job.awaits] at awaits

theorem Apart.awaits_of (apart : Apart task gone c d) (different : other ≠ task)
    (awaits : d.Awaits other ticket) : c.Awaits other ticket := by
  obtain ⟨job, standing, due⟩ := awaits
  exact ⟨job, ((apart.job?_iff different (lasting_of_awaits due)).mp standing).2, due⟩

/-- What has to be shown of a turn, about the task whose turn it is. -/
theorem Apart.stems (apart : Apart task gone c d) (old : task < c.begun)
    (tickets : c.handoffs.length ≤ d.handoffs.length)
    (awaits : ∀ ticket, d.Awaits task ticket → c.Awaits task ticket ∨
      c.handoffs.length ≤ ticket ∧ ticket < d.handoffs.length)
    (awaited : ∀ ticket, ticket < c.handoffs.length → d.awaited? ticket = c.awaited? ticket ∨
      ∃ other, c.Awaits other ticket ∧ d.job? other = none)
    (joins : ∀ tasks, d.Joins task tasks → c.Joins task tasks ∨ tasks = c.background)
    (background : d.background ⊆ c.background) : Stems c d where
  begun := apart.begun
  tickets := tickets
  awaits {other ticket} due := by
    by_cases own : other = task
    · exact own ▸ awaits ticket (own ▸ due)
    · exact .inl (apart.awaits_of own due)
  awaited known := awaited _ known
  joins {other tasks} due := by
    by_cases own : other = task
    · exact own ▸ joins tasks (own ▸ due)
    · exact .inl ((apart.joins_iff own).mp due).2
  background listed := .inl (background listed)
  silent {other} unborn := apart.reports (Nat.ne_of_gt (Nat.lt_of_lt_of_le old unborn))

theorem not_awaits_of_ended (ended : c.job? task = none) : ¬ c.Awaits task ticket := by
  rintro ⟨job, standing, _⟩
  rw [ended] at standing
  simp at standing

theorem not_joins_of_ended (ended : c.job? task = none) : ¬ c.Joins task tasks := by
  rintro ⟨deadline, standing⟩
  rw [ended] at standing
  simp at standing

/-- The turn of a task that does not stop. -/
theorem Acts.stems (acts : c.Acts task job d) (standing : c.job? task = some job)
    (numbered : c.Numbered) : Stems c d := by
  have apart := acts.beside.toApart
  have background : d.background ⊆ c.background := by
    rw [acts.beside.background]
    exact List.Subset.refl _
  have old := numbered.lt_begun standing
  cases acts with
  | stays tends =>
      refine apart.stems old tends.tickets (fun ticket due => .inl ?_)
        (fun _ known => .inl (tends.awaited known)) (fun tasks due => .inl ?_) background
      · obtain ⟨other, there, due⟩ := due
        exact ⟨other, (tends.job?_iff (lasting_of_awaits due)).mp there, due⟩
      · obtain ⟨deadline, there⟩ := due
        exact ⟨deadline, (tends.job?_iff rfl).mp there⟩
  | @waits d tends next _ calm own =>
      have parked : (d.park task next).job? task = some next := by
        rw [job?_park, if_pos rfl, tends.kept standing, Option.map_some]
      refine apart.stems old tends.tickets (fun ticket due => ?_)
        (fun _ known => .inl (tends.awaited known)) (fun tasks due => ?_) background
      · obtain ⟨other, there, due⟩ := due
        obtain rfl : next = other := Option.some.inj (parked.symm.trans there)
        exact (own ticket due).imp_left fun before => ⟨job, standing, before⟩
      · obtain ⟨deadline, there⟩ := due
        obtain rfl : next = _ := Option.some.inj (parked.symm.trans there)
        simp [Job.isStop] at calm
  | ends tends report =>
      exact apart.stems old tends.tickets
        (fun _ due => absurd due (not_awaits_of_ended (job?_finish _ task report)))
        (fun _ known => .inl (tends.awaited known))
        (fun _ due => absurd due (not_joins_of_ended (job?_finish _ task report))) background
  | @collects d tends ticket after verdict looks own report =>
      have ended : ({ d with handoffs := d.handoffs.set ticket after }.finish task report).job?
        task = none := job?_finish _ task report
      refine apart.stems old ?_ (fun _ due => absurd due (not_awaits_of_ended ended))
        (fun other known => ?_) (fun _ due => absurd due (not_joins_of_ended ended)) background
      · change _ ≤ (d.handoffs.set ticket after).length
        rw [List.length_set]
        exact tends.tickets
      · by_cases same : other = ticket
        · refine .inr ⟨task, ⟨job, standing, ?_⟩, ended⟩
          rw [same]
          exact own.resolve_right (Nat.not_le.mpr (same ▸ known))
        · left
          rw [← tends.awaited known]
          change ((d.handoffs.set ticket after)[other]?).map _ = _
          rw [List.getElem?_set_ne (Ne.symm same), awaited?]

/-! ## Stops -/

/-- Those that a stop gives up are among those that it has waited for. -/
theorem Ceases.apart (ceases : c.Ceases task tasks d) : ∃ gone ⊆ tasks, Apart task gone c d := by
  cases ceases with
  | waits deadline => exact ⟨[], List.nil_subset _, c.apart_park task _⟩
  | panics => exact ⟨[], List.nil_subset _, c.apart_finish task _⟩
  | ends gone among _ apart _ _ _ _ _ => exact ⟨gone, among, apart⟩

theorem Ceases.uncollected (ceases : c.Ceases task tasks d) : Uncollected c d := by
  cases ceases with
  | waits deadline => exact uncollected_of_eq rfl
  | panics => exact uncollected_of_eq rfl
  | ends _ _ _ _ uncollected _ _ _ _ => exact uncollected

theorem Ceases.background (ceases : c.Ceases task tasks d) : d.background = c.background := by
  cases ceases with
  | waits deadline => rfl
  | panics => rfl
  | ends _ _ _ _ _ _ _ _ background => exact background

theorem Ceases.not_awaits (ceases : c.Ceases task tasks d) : ¬ d.Awaits task ticket := by
  cases ceases with
  | waits deadline =>
      rintro ⟨job, standing, due⟩
      rw [job?_park, if_pos rfl, Option.map_eq_some_iff] at standing
      obtain ⟨_, _, rfl⟩ := standing
      simp [Job.awaits] at due
  | panics => exact not_awaits_of_ended (job?_finish c task _)
  | ends _ _ _ _ _ ended _ _ _ => exact not_awaits_of_ended ended

theorem Ceases.joins (ceases : c.Ceases task tasks d) {more : List TaskId}
    (joins : d.Joins task more) : more = tasks := by
  cases ceases with
  | waits deadline =>
      obtain ⟨later, standing⟩ := joins
      rw [job?_park, if_pos rfl, Option.map_eq_some_iff] at standing
      obtain ⟨_, _, same⟩ := standing
      exact (Job.join.inj same).1.symm
  | panics => exact absurd joins (not_joins_of_ended (job?_finish c task _))
  | ends _ _ _ _ _ ended _ _ _ => exact absurd joins (not_joins_of_ended ended)

/-! ## Turns -/

theorem stems_called (c : Coordinator) (task : TaskId) : Stems c (c.called task) where
  begun := Nat.le_refl _
  tickets := Nat.le_refl _
  awaits due := .inl due
  awaited _ := .inl rfl
  joins due := .inl due
  background listed := .inl listed
  silent _ := rfl

theorem Stems.of_called (stems : Stems (c.called task) d) : Stems c d :=
  ⟨stems.begun, stems.tickets, stems.awaits, stems.awaited, stems.joins, stems.background,
    stems.silent⟩

/-- What the turn of a stop gives up and waits for, once it has raised the signal. -/
theorem Ceases.stems (ceases : d.Ceases task tasks e) (apart : Apart task [] c d)
    (halves : Uncollected c d) (old : task < c.begun) (background : d.background ⊆ c.background)
    (waited : c.Joins task tasks ∨ tasks = c.background) :
    ∃ gone ⊆ tasks, Apart task gone c e ∧ Stems c e := by
  obtain ⟨gone, among, further⟩ := ceases.apart
  have whole := apart.trans further
  have kept := halves.trans ceases.uncollected
  refine ⟨gone, among, whole, whole.stems old kept.tickets
    (fun _ due => absurd due ceases.not_awaits) (fun _ known => .inl (kept.awaited known))
    (fun more due => ?_) ?_⟩
  · rw [ceases.joins due]
    exact waited
  · rw [ceases.background]
    exact background

/-- **A turn** gives up nobody but background tasks. -/
theorem Sound.turn_stems (sound : c.Sound books []) (numbered : c.Numbered) (task : TaskId) :
    ∃ gone, Apart task gone c (c.turn task) ∧ Stems c (c.turn task) ∧
      ∀ other ∈ gone, other ∈ c.background ∨ ∃ tasks, c.Joins task tasks ∧ other ∈ tasks := by
  have nobody : ∀ other ∈ ([] : List TaskId), other ∈ c.background ∨
      ∃ tasks, c.Joins task tasks ∧ other ∈ tasks := fun _ member => absurd member List.not_mem_nil
  have called := c.apart_called task
  have halves : Uncollected c (c.called task) := uncollected_of_eq rfl
  cases standing : c.job? task with
  | none =>
      rw [turn_of_ended standing]
      exact ⟨[], called, c.stems_called task, nobody⟩
  | some job =>
      have old := numbered.lt_begun standing
      rw [turn_eq standing (sound.leads_called standing).sound.held]
      cases live : job.isStop with
      | false =>
          have acts := (c.called task).acts_runJob task live
          exact ⟨[], called.trans acts.beside.toApart, (acts.stems standing numbered).of_called,
            nobody⟩
      | true =>
          cases job with
          | stop =>
              change ∃ gone, Apart task gone c ((c.called task).beginStop task) ∧
                Stems c ((c.called task).beginStop task) ∧ _
              rcases (c.called task).beginStop_ceases task with ⟨_, refused⟩ | ⟨_, ceases⟩
              · have ended := job?_finish (c.called task) task (.stopped none)
                rw [refused]
                refine ⟨[], called.trans (apart_finish _ task _), ?_, nobody⟩
                exact (called.trans (apart_finish _ task _)).stems old (Nat.le_refl _)
                  (fun _ due => absurd due (not_awaits_of_ended ended)) (fun _ _ => .inl rfl)
                  (fun _ due => absurd due (not_joins_of_ended ended)) (List.Subset.refl _)
              · obtain ⟨gone, among, apart, stems⟩ := ceases.stems
                  (called.trans (apart_withSignal _ task _)) (halves.trans (uncollected_of_eq rfl))
                  old (List.nil_subset _) (.inr rfl)
                exact ⟨gone, apart, stems, fun other member => .inl (among member)⟩
          | join tasks deadline =>
              have joins : c.Joins task tasks := ⟨deadline, standing⟩
              obtain ⟨gone, among, apart, stems⟩ :=
                ((c.called task).joinTasks_ceases task tasks deadline).stems called halves old
                  (List.Subset.refl _) (.inl joins)
              exact ⟨gone, apart, stems, fun other member => .inr ⟨tasks, joins, among member⟩⟩
          | _ => simp [Job.isStop] at live

/-! ## Events -/

theorem Tends.awaits_of (tends : Tends c d) (awaits : d.Awaits other ticket) :
    c.Awaits other ticket := by
  obtain ⟨job, standing, due⟩ := awaits
  exact ⟨job, (tends.job?_iff (lasting_of_awaits due)).mp standing, due⟩

/-- A task begins that callers may begin, or that watches a new ticket. -/
theorem Tends.spawn_stems (tends : Tends c d)
    (own : ∀ ticket, Job.awaits ticket job = true →
      c.handoffs.length ≤ ticket ∧ ticket < d.handoffs.length)
    (calm : ∀ tasks deadline, job ≠ .join tasks deadline) : Stems c (d.spawn job).1 where
  begun := Nat.le_succ_of_le tends.begun
  tickets := tends.tickets
  awaits {other ticket} awaits := by
    obtain ⟨standing, there, due⟩ := awaits
    rw [job?_spawn, Option.or_eq_some_iff] at there
    rcases there with before | ⟨_, begins⟩
    · exact .inl ⟨standing, (tends.job?_iff (lasting_of_awaits due)).mp before, due⟩
    · split at begins
      · exact .inr (own ticket (Option.some.inj begins ▸ due))
      · simp at begins
  awaited known := .inl (tends.awaited known)
  joins {other tasks} joins := by
    obtain ⟨deadline, there⟩ := joins
    rw [job?_spawn, Option.or_eq_some_iff] at there
    rcases there with before | ⟨_, begins⟩
    · exact .inl ⟨deadline, (tends.job?_iff rfl).mp before⟩
    · split at begins
      · exact absurd (Option.some.inj begins) (calm tasks deadline)
      · simp at begins
  background listed := .inl (tends.background ▸ listed)
  silent _ := by
    change d.reports _ = _
    rw [reports, tends.ended, reports]

theorem Tends.stems (tends : Tends c d) : Stems c d where
  begun := tends.begun
  tickets := tends.tickets
  awaits awaits := .inl (tends.awaits_of awaits)
  awaited known := .inl (tends.awaited known)
  joins := fun ⟨deadline, joins⟩ => .inl ⟨deadline, (tends.job?_iff rfl).mp joins⟩
  background listed := .inl (tends.background ▸ listed)
  silent _ := by rw [reports, tends.ended, reports]

/-- A start adds the two tasks that begin to the background tasks. -/
theorem Starts.stems (starts : Starts c d) : Stems c d where
  begun := by rw [starts.begun]; exact Nat.le_add_right _ _
  tickets := Nat.le_of_eq (by rw [starts.handoffs])
  awaits {other ticket} awaits := by
    obtain ⟨job, there, due⟩ := awaits
    rw [starts.job?, Option.or_eq_some_iff, Option.or_eq_some_iff] at there
    rcases there with (before | ⟨_, begins⟩) | ⟨_, begins⟩
    · exact .inl ⟨job, before, due⟩
    all_goals
      split at begins
      · rw [← Option.some.inj begins] at due
        simp [Job.awaits] at due
      · simp at begins
  awaited _ := .inl (by rw [awaited?, starts.handoffs, awaited?])
  joins {other tasks} joins := by
    obtain ⟨deadline, there⟩ := joins
    rw [starts.job?, Option.or_eq_some_iff, Option.or_eq_some_iff] at there
    rcases there with (before | ⟨_, begins⟩) | ⟨_, begins⟩
    · exact .inl ⟨deadline, before⟩
    all_goals split at begins <;> simp at begins
  background {other} listed := by
    rw [starts.background, List.mem_append] at listed
    refine listed.imp_right fun new => ?_
    rw [starts.begun]
    rcases List.mem_cons.mp new with rfl | second
    · exact ⟨Nat.le_refl _, Nat.lt_add_of_pos_right (by decide)⟩
    · rw [List.mem_singleton.mp second]
      exact ⟨Nat.le_succ _, Nat.lt_succ_self _⟩
  silent _ := by rw [reports, starts.ended, reports]

/-! ## Tidy coordinators -/

/-- What tasks wait for is there: tickets have registrations, lists have tasks that have begun, and
nobody reports before it begins. -/
structure Tidy (c : Coordinator) : Prop where
  numbered : c.Numbered
  tickets : ∀ {other ticket}, c.Awaits other ticket → ticket < c.handoffs.length
  listed : ∀ {other}, other ∈ c.background → other < c.begun
  joined : ∀ {task tasks}, c.Joins task tasks → ∀ other ∈ tasks, other < c.begun
  silent : ∀ {other}, c.begun ≤ other → c.reports other = []

theorem tidy_create (config : CoordinatorConfig) (transport : Transport) (naming : Nat → String) :
    (create config transport naming).Tidy where
  numbered := by simp [Numbered, create]
  tickets awaits := by simp [Awaits, job?, create] at awaits
  listed listed := by simp [create] at listed
  joined joins := by simp [Joins, job?, create] at joins
  silent _ := rfl

theorem Tidy.stems (tidy : c.Tidy) (stems : Stems c d) (numbered : d.Numbered) : d.Tidy where
  numbered := numbered
  tickets awaits := by
    rcases stems.awaits awaits with before | ⟨_, new⟩
    · exact Nat.lt_of_lt_of_le (tidy.tickets before) stems.tickets
    · exact new
  listed listed := by
    rcases stems.background listed with before | ⟨_, new⟩
    · exact Nat.lt_of_lt_of_le (tidy.listed before) stems.begun
    · exact new
  joined joins other member := by
    rcases stems.joins joins with before | rfl
    · exact Nat.lt_of_lt_of_le (tidy.joined before other member) stems.begun
    · exact Nat.lt_of_lt_of_le (tidy.listed member) stems.begun
  silent unborn := by
    have before := Nat.le_trans stems.begun unborn
    rw [stems.silent before, tidy.silent before]

theorem stems_elapse (c : Coordinator) (instant : Instant) : Stems c (c.elapse instant) where
  begun := Nat.le_refl _
  tickets := Nat.le_refl _
  awaits due := .inl due
  awaited _ := .inl rfl
  joins due := .inl due
  background listed := .inl listed
  silent _ := rfl

/-- **Every event** leaves a tidy coordinator tidy. -/
theorem Tidy.step (tidy : c.Tidy) (sound : c.Sound books []) (call : choice.isCall) :
    Stems c (c.step choice) ∧ (c.step choice).Tidy := by
  have both : ∀ {d : Coordinator}, Stems c d → d.Numbered → Stems c d ∧ d.Tidy :=
    fun stems numbered => ⟨stems, tidy.stems stems numbered⟩
  cases choice with
  | turn task =>
      obtain ⟨_, apart, stems, _⟩ := sound.turn_stems tidy.numbered task
      exact both stems (apart.numbered tidy.numbered)
  | start =>
      rcases c.step_start_cases with same | starts
      · rw [same]
        exact both (Tends.refl c).stems tidy.numbered
      · exact both starts.stems (starts.numbered tidy.numbered)
  | elapse instant => exact both (c.stems_elapse instant) tidy.numbered
  | spawn job =>
      refine both ((Tends.refl c).spawn_stems (fun ticket due => ?_) fun tasks deadline same => ?_)
        (tidy.numbered.spawn job)
      · cases job with
        | suspended other => simp [Choice.isCall, Job.isCall] at call
        | watch other => simp [Choice.isCall, Job.isCall] at call
        | _ => simp [Job.awaits] at due
      · simp [same, Choice.isCall, Job.isCall] at call
  | register x id timeout =>
      cases enrols : c.enrol x id timeout with
      | error panic =>
          simp only [Coordinator.step, enrols]
          exact both (Tends.refl c).stems tidy.numbered
      | ok outcome =>
          obtain ⟨enrolled, ticket⟩ := outcome
          obtain ⟨next, known, _⟩ := ticket_of_enrol enrols
          have tends := tends_enrol enrols
          simp only [Coordinator.step, enrols]
          refine both (tends.spawn_stems (fun other due => ?_) (by simp))
            ((tends.numbered tidy.numbered).spawn _)
          obtain rfl : ticket = other := by simpa [Job.awaits] using due
          exact ⟨Nat.le_of_eq next.symm, known⟩
  | rekey source target =>
      have tends := c.tends_rekey source target
      exact both tends.stems (tends.numbered tidy.numbered)
  | publish address =>
      have tends := c.tends_publish address
      exact both tends.stems (tends.numbered tidy.numbered)

/-! ## A task that others leave alone -/

/-- From `c` to `d` a task stands where it stood and reports nothing, and if it could run or
something has come that it waits for then it can. -/
structure Lets (mine : TaskId) (c d : Coordinator) : Prop where
  job?_iff : ∀ {job}, job.isErrand = false → (d.job? mine = some job ↔ c.job? mine = some job)
  missing : c.job? mine = none → d.job? mine = none
  reports : d.reports mine = c.reports mine
  rouses : ∀ {job}, c.job? mine = some job → (c.Cued job → mine ∈ c.ready) → d.Cued job →
    mine ∈ d.ready

theorem Lets.refl (c : Coordinator) : Lets mine c c where
  job?_iff _ := Iff.rfl
  missing ended := ended
  reports := rfl
  rouses _ alert cued := alert cued

theorem Apart.lets (apart : Apart task gone c d) (old : mine < c.begun) (different : mine ≠ task)
    (stays : mine ∉ gone) : Lets mine c d where
  job?_iff lasting := by simp [apart.job?_iff different lasting, stays]
  missing := apart.missing old
  reports := apart.reports different
  rouses standing alert cued := by
    rcases apart.rouses different stays standing cued with before | can
    · exact apart.ready different stays (alert before)
    · exact can

theorem Starts.lets (starts : Starts c d) (old : mine < c.begun) : Lets mine c d := by
  have same : d.job? mine = c.job? mine := by
    rw [starts.job?, if_neg (Nat.ne_of_gt old), if_neg (Nat.ne_of_gt (Nat.lt_succ_of_lt old)),
      Option.or_none, Option.or_none]
  refine ⟨fun _ => by rw [same], fun ended => same.trans ended, ?_, fun _ alert cued => ?_⟩
  · rw [reports, starts.ended, reports]
  · rw [starts.ready]
    exact List.mem_append_left _ (List.mem_append_left _
      (alert (cued.of_eq starts.now starts.replyAddress starts.handoffs)))

/-- Time that passes wakes a request whose patience has come to its end. -/
theorem lets_elapse (c : Coordinator) (instant : Instant) : Lets mine c (c.elapse instant) where
  job?_iff _ := Iff.rfl
  missing ended := ended
  reports := rfl
  rouses {job} standing alert cued := by
    have still : c.Cued job → mine ∈ (c.elapse instant).ready := fun before =>
      c.ready_subset_wake _ (alert before)
    cases job with
    | request x timeout waiting =>
        cases waiting with
        | none => exact still cued
        | some deadline =>
            rcases cued with address | come
            · exact still (.inl address)
            · exact ready_elapse (timer_of_job? standing rfl) come
    | sent x id timeout answer => exact still trivial
    | suspended ticket => exact still cued
    | _ => exact absurd cued id

/-- Nobody but the task itself ends it: it is no background task that a stop gives up, and nobody
else collects its verdict. If something has come that it waits for, it can run. -/
structure Undisturbed (c : Coordinator) (mine : TaskId) : Prop where
  begun : mine < c.begun
  unlisted : mine ∉ c.background
  unjoined : ∀ {task tasks}, c.Joins task tasks → mine ∉ tasks
  alert : ∀ {job}, c.job? mine = some job → c.Cued job → mine ∈ c.ready
  own : ∀ {ticket}, c.job? mine = some (.suspended ticket) →
    c.awaited? ticket = some true ∧ ∀ other, c.Awaits other ticket → other = mine

theorem Undisturbed.of_stems (undisturbed : c.Undisturbed mine)
    (stems : Stems c d) (alert : ∀ {job}, d.job? mine = some job → d.Cued job → mine ∈ d.ready)
    (own : ∀ {ticket}, d.job? mine = some (.suspended ticket) →
      d.awaited? ticket = some true ∧ ∀ other, d.Awaits other ticket → other = mine) :
    d.Undisturbed mine where
  begun := Nat.lt_of_lt_of_le undisturbed.begun stems.begun
  unlisted listed := by
    rcases stems.background listed with before | ⟨late, _⟩
    · exact undisturbed.unlisted before
    · exact Nat.not_le.mpr undisturbed.begun late
  unjoined joins := by
    rcases stems.joins joins with before | rfl
    · exact undisturbed.unjoined before
    · exact undisturbed.unlisted
  alert := alert
  own := own

/-- Nobody else begins to wait for the verdict that a task waits for. -/
theorem Undisturbed.alone (undisturbed : c.Undisturbed mine) (tidy : c.Tidy) (stems : Stems c d)
    (standing : c.job? mine = some (.suspended ticket)) (awaits : d.Awaits other ticket) :
    other = mine := by
  have waits : c.Awaits mine ticket := ⟨_, standing, by simp [Job.awaits]⟩
  rcases stems.awaits awaits with before | ⟨new, _⟩
  · exact (undisturbed.own standing).2 other before
  · exact absurd (tidy.tickets waits) (Nat.not_lt.mpr new)

/-- Nobody collects the verdict that a task goes on waiting for. -/
theorem Undisturbed.own_of_stems (undisturbed : c.Undisturbed mine) (tidy : c.Tidy)
    (stems : Stems c d) (before : c.job? mine = some (.suspended ticket))
    (standing : d.job? mine = some (.suspended ticket)) :
    d.awaited? ticket = some true ∧ ∀ other, d.Awaits other ticket → other = mine := by
  have waits : c.Awaits mine ticket := ⟨_, before, by simp [Job.awaits]⟩
  obtain ⟨awaited, alone⟩ := undisturbed.own before
  refine ⟨?_, fun other awaits => undisturbed.alone tidy stems before awaits⟩
  rcases stems.awaited (tidy.tickets waits) with same | ⟨other, awaits, ended⟩
  · exact same.trans awaited
  · rw [alone other awaits, standing] at ended
    simp at ended

theorem Undisturbed.lets (undisturbed : c.Undisturbed mine) (tidy : c.Tidy) (stems : Stems c d)
    (lets : Lets mine c d) : d.Undisturbed mine := by
  refine undisturbed.of_stems stems (fun standing cued => ?_) fun {ticket} standing => ?_
  · have before := (lets.job?_iff cued.lasting).mp standing
    exact lets.rouses before (undisturbed.alert before) cued
  · exact undisturbed.own_of_stems tidy stems ((lets.job?_iff rfl).mp standing) standing

/-- A task that has ended waits for nothing. -/
theorem Undisturbed.of_ended (undisturbed : c.Undisturbed mine) (stems : Stems c d)
    (ended : d.job? mine = none) : d.Undisturbed mine := by
  refine undisturbed.of_stems stems (fun standing => ?_) fun standing => ?_
  all_goals
    rw [ended] at standing
    simp at standing

/-- Nothing has come that a task waits for. -/
def Waiting (c : Coordinator) (mine : TaskId) : Prop :=
  ∀ job, c.job? mine = some job → ¬ c.Cued job

theorem waiting_of_ended (ended : c.job? mine = none) : c.Waiting mine := fun job standing => by
  rw [ended] at standing
  simp at standing

theorem waiting_of_park (standing : c.job? mine = some job) (waits : ¬ c.Cued next) :
    (c.park mine next).Waiting mine := by
  intro other there cued
  rw [job?_park, if_pos rfl, standing, Option.map_some, Option.some_inj] at there
  exact waits (there ▸ cued.of_eq)

/-- A task waits after its turn for what has not come yet. -/
theorem Undisturbed.of_park (undisturbed : c.Undisturbed mine) (stems : Stems c (d.park mine next))
    (standing : d.job? mine = some job) (waits : ¬ d.Cued next)
    (own : ∀ ticket, next = .suspended ticket → d.awaited? ticket = some true ∧
      ∀ other, (d.park mine next).Awaits other ticket → other = mine) :
    (d.park mine next).Undisturbed mine := by
  have parked : (d.park mine next).job? mine = some next := by
    rw [job?_park, if_pos rfl, standing, Option.map_some]
  have waiting := waiting_of_park standing waits
  exact undisturbed.of_stems stems (fun there cued => absurd cued (waiting _ there))
    fun there => own _ (Option.some.inj (parked.symm.trans there))

/-- A task that callers begin is no background task, and can run. -/
theorem Tidy.undisturbed_spawn (tidy : c.Tidy) (call : job.isCall = true) :
    (c.spawn job).1.job? c.begun = some job ∧ (c.spawn job).1.Undisturbed c.begun := by
  have unborn : c.job? c.begun = none := by
    cases standing : c.job? c.begun with
    | none => rfl
    | some other => exact absurd (tidy.numbered.lt_begun standing) (Nat.lt_irrefl _)
  have standing : (c.spawn job).1.job? c.begun = some job := by
    rw [job?_spawn, unborn, if_pos rfl, Option.none_or]
  have can : c.begun ∈ (c.spawn job).1.ready :=
    List.mem_append_right _ (List.mem_singleton_self _)
  refine ⟨standing, Nat.lt_succ_self _, fun listed => Nat.lt_irrefl _ (tidy.listed listed),
    fun {task tasks} joins member => ?_, fun _ _ => can, fun there => ?_⟩
  · obtain ⟨deadline, there⟩ := joins
    rw [job?_spawn, Option.or_eq_some_iff] at there
    rcases there with before | ⟨_, begins⟩
    · exact Nat.lt_irrefl _ (tidy.joined ⟨deadline, before⟩ _ member)
    · split at begins
      · simp [Option.some.inj begins, Job.isCall] at call
      · simp at begins
  · simp [Option.some.inj (standing.symm.trans there), Job.isCall] at call

/-- **Whatever happens besides its own turns** leaves the task of a request alone. -/
theorem Undisturbed.step (undisturbed : c.Undisturbed mine) (tidy : c.Tidy)
    (sound : c.Sound books []) (call : choice.isCall) (foreign : choice ≠ .turn mine) :
    Lets mine c (c.step choice) ∧ (c.step choice).Undisturbed mine := by
  have old := undisturbed.begun
  suffices lets : Lets mine c (c.step choice) from
    ⟨lets, undisturbed.lets tidy (tidy.step sound call).1 lets⟩
  cases choice with
  | turn task =>
      have different : mine ≠ task := fun same => foreign (same ▸ rfl)
      obtain ⟨gone, apart, _, among⟩ := sound.turn_stems tidy.numbered task
      refine apart.lets old different fun member => ?_
      rcases among mine member with listed | ⟨tasks, joins, inside⟩
      · exact undisturbed.unlisted listed
      · exact undisturbed.unjoined joins inside
  | start =>
      rcases c.step_start_cases with same | starts
      · rw [same]
        exact .refl c
      · exact starts.lets old
  | elapse instant => exact c.lets_elapse instant
  | spawn job => exact (c.apart_spawn job).lets old (Nat.ne_of_lt old) List.not_mem_nil
  | register x id timeout =>
      cases enrols : c.enrol x id timeout with
      | error panic =>
          simp only [Coordinator.step, enrols]
          exact .refl c
      | ok outcome =>
          obtain ⟨enrolled, ticket⟩ := outcome
          have tends := tends_enrol enrols
          have later := Nat.ne_of_lt (Nat.lt_of_lt_of_le old tends.begun)
          simp only [Coordinator.step, enrols]
          exact ((tends.apart enrolled.begun).trans (enrolled.apart_spawn (.watch ticket))).lets old
            later List.not_mem_nil
  | rekey source target =>
      exact ((c.tends_rekey source target).apart c.begun).lets old (Nat.ne_of_lt old)
        List.not_mem_nil
  | publish address =>
      exact ((c.tends_publish address).apart c.begun).lets old (Nat.ne_of_lt old) List.not_mem_nil

end Mediation.Coordinator
