import Mediation.Proofs.Coordinator.Overruns
import Mediation.Proofs.Coordinator.Publications

/-!
# Waiting for the reply address

A request needs the reply address. If one is known when the request takes its first turn, it is sent
with this turn. Otherwise it waits, until an instant that is fixed once, and is in one of a few
stages from then on (`AddressStage`): while no address is published its timer is still to fire, and
once one is published it can run.

Where the clock only goes on when nobody can run, and stops at every timer, this settles the request
in time (`addresses_awaited`). An address that is published before the end of the wait releases it
at that instant, and it is sent to the address that was published last. If none is published it
gives up, with nothing sent and nothing registered, when the timer fires at the latest: at the first
whole millisecond at or after the end of its wait. So an address that is published between the two
may still be used (`waits_inexact`).
-/

set_option autoImplicit false

namespace Mediation.Coordinator

variable {c d : Coordinator} {task : TaskId} {job : Job} {x : Exchange} {limit : Duration}
  {waiting : Option Instant} {deadline : Instant} {address : String}
  {books : List (Exchange × Duration)} {choice : Choice} {choices : List Choice} {n m k p : Nat}

/-! ## The clock -/

/-- **Every event** leaves the settings as they are, and all but the passing of time the clock. -/
theorem Sound.clock_step (sound : c.Sound books []) (tidy : c.Tidy) (choice : Choice) :
    (c.step choice).config = c.config ∧ ((c.step choice).now = c.now ∨
      ∃ instant, choice = .elapse instant ∧ (c.step choice).now = max c.now instant) := by
  cases choice with
  | turn task =>
      obtain ⟨_, apart, _⟩ := sound.turn_stems tidy.numbered task
      exact ⟨apart.config, .inl apart.now⟩
  | start =>
      rcases c.step_start_cases with same | starts
      · rw [same]
        exact ⟨rfl, .inl rfl⟩
      · exact ⟨starts.config, .inl starts.now⟩
  | spawn job => exact ⟨rfl, .inl rfl⟩
  | register x id limit =>
      cases enrols : c.enrol x id limit with
      | error panic =>
          have same : c.step (.register x id limit) = c := by simp only [step, enrols]
          rw [same]
          exact ⟨rfl, .inl rfl⟩
      | ok outcome =>
          have tends := tends_enrol enrols
          simp only [step, enrols]
          exact ⟨tends.config, .inl tends.now⟩
  | rekey source target =>
      have tends := c.tends_rekey source target
      exact ⟨tends.config, .inl tends.now⟩
  | publish address => exact ⟨rfl, .inl rfl⟩
  | elapse instant => exact ⟨rfl, .inr ⟨instant, rfl, rfl⟩⟩

section

variable (sound : c.Sound [] []) (tidy : c.Tidy) (calls : ∀ choice ∈ choices, choice.isCall)

include sound tidy calls

theorem config_before (n : Nat) : (c.before choices n).config = c.config := by
  induction n with
  | zero => rfl
  | succ n ih =>
      cases there : choices[n]? with
      | none => rw [before_succ_of_none there, ih]
      | some choice =>
          rw [before_succ there, ← ih]
          exact ((sound.before calls n).clock_step (tidy.before sound calls n) choice).1

theorem now_succ (n : Nat) : (c.before choices (n + 1)).now = (c.before choices n).now ∨
    ∃ instant, choices[n]? = some (.elapse instant) ∧
      (c.before choices (n + 1)).now = max (c.before choices n).now instant := by
  cases there : choices[n]? with
  | none => exact .inl (by rw [before_succ_of_none there])
  | some choice =>
      rw [before_succ there]
      rcases ((sound.before calls n).clock_step (tidy.before sound calls n) choice).2 with
        same | ⟨instant, rfl, passes⟩
      · exact .inl same
      · exact .inr ⟨instant, rfl, passes⟩

theorem now_mono (earlier : n ≤ m) : (c.before choices n).now ≤ (c.before choices m).now := by
  induction m, earlier using Nat.le_induction with
  | base => exact Nat.le_refl _
  | succ m _ ih =>
      rcases now_succ sound tidy calls m with same | ⟨instant, _, passes⟩
      · exact same ▸ ih
      · exact passes ▸ Nat.le_trans ih (Nat.le_max_left _ _)

end

/-! ## Turns of a request that looks for the address -/

/-- Until when someone waits for the reply address who asks for it at an instant: as long as the
settings say, or up to the last instant of a timer. There is no end, and the wait does not begin, if
the clock can just hold that instant and has no room for its timer. -/
structure EndOfWait (c : Coordinator) (made deadline : Instant) : Prop where
  timed : made.Holds c.config.replyAddressTimeout → made.Times c.config.replyAddressTimeout
  ends : deadline = min (made.plus c.config.replyAddressTimeout) Instant.lastTimer

theorem endOfWait_iff {made : Instant} :
    c.EndOfWait made deadline ↔ made.giveUp? c.config.replyAddressTimeout = some deadline := by
  by_cases holds : made.Holds c.config.replyAddressTimeout
  · rw [Instant.giveUp?_of_holds holds, Instant.timer?_plus_eq_some_iff]
    exact ⟨fun ⟨timed, ends⟩ => ⟨timed holds, ends⟩, fun ⟨times, ends⟩ => ⟨fun _ => times, ends⟩⟩
  · have last : min (made.plus c.config.replyAddressTimeout) Instant.lastTimer =
        Instant.lastTimer := Nat.min_eq_right (Instant.lastTimer_le_plus holds)
    rw [Instant.giveUp?_of_not_holds holds, Option.some_inj, eq_comm]
    exact ⟨fun ⟨_, ends⟩ => ends.trans last, fun ends =>
      ⟨fun fits => absurd fits holds, ends.trans last.symm⟩⟩

theorem EndOfWait.unique {made other : Instant} (ends : c.EndOfWait made deadline)
    (again : c.EndOfWait made other) : deadline = other :=
  Option.some.inj ((endOfWait_iff.mp ends).symm.trans (endOfWait_iff.mp again))

/-- From `c` to `d` nothing is sent and nothing is registered. -/
structure Untouched (c d : Coordinator) : Prop where
  transport : d.transport = c.transport
  registry : d.registry = c.registry

/-- From `c` to `d` a request has given up: it is handed back with a failure of the transport, and
nothing was sent or registered. -/
structure GivesUp (c : Coordinator) (task : TaskId) (x : Exchange) (d : Coordinator) : Prop
    extends Untouched c d where
  returned : d.reports task = .returned (x.withFailure (.transport
    (RuntimeError.replyAddressTimeout c.config.replyAddressTimeout).text)) :: c.reports task
  gone : d.job? task = none

/-- What the turn of a request comes to that looks for the reply address. -/
inductive Looks (c : Coordinator) (task : TaskId) (x : Exchange) (limit : Duration)
    (waiting : Option Instant) : Coordinator → Prop
  /-- It knows the address, and is sent. -/
  | sends {d : Coordinator} {address : String} (known : c.replyAddress = some address)
      (posts : c.Posts task x limit address d) : Looks c task x limit waiting d
  /-- It waits. -/
  | waits {d : Coordinator} {deadline : Instant} (unknown : c.replyAddress = none)
      (patience : c.addressDeadline? waiting = some deadline) (early : c.now < deadline)
      (standing : d.job? task = some (.request x limit (some deadline)))
      (untouched : Untouched c d) : Looks c task x limit waiting d
  /-- It has waited long enough. -/
  | givesUp {d : Coordinator} {deadline : Instant} (unknown : c.replyAddress = none)
      (patience : c.addressDeadline? waiting = some deadline) (come : deadline ≤ c.now)
      (gives : c.GivesUp task x d) : Looks c task x limit waiting d
  /-- There is no timer for the end of its wait. -/
  | untimed {d : Coordinator} (unknown : c.replyAddress = none)
      (unfit : c.addressDeadline? waiting = none) (untouched : Untouched c d) :
      Looks c task x limit waiting d

/-- **The turn of a request that looks for the reply address.** -/
theorem Sound.looks (sound : c.Sound books [])
    (standing : c.job? task = some (.request x limit waiting)) :
    c.Looks task x limit waiting (c.turn task) := by
  rw [turn_eq standing (sound.leads_called standing).sound.held]
  change c.Looks task x limit waiting ((c.called task).seekAddress task x limit waiting)
  have here : (c.called task).replyAddress = c.replyAddress := rfl
  have asks : (c.called task).addressDeadline? waiting = c.addressDeadline? waiting := rfl
  cases known : c.replyAddress with
  | some address =>
      rw [known] at here
      simp only [seekAddress, here]
      exact .sends known (posts_sendRequest _ task x limit address).1.of_called
  | none =>
      rw [known] at here
      simp only [seekAddress, here, asks]
      cases patience : c.addressDeadline? waiting with
      | none => exact .untimed known patience ⟨rfl, rfl⟩
      | some deadline =>
          simp only
          split
          · next come =>
              refine .givesUp known patience come ⟨⟨rfl, rfl⟩, ?_, job?_finish _ task _⟩
              rw [reports_finish, if_pos rfl]
              rfl
          · next early =>
              refine .waits known patience (Nat.not_le.mp early) ?_ ⟨rfl, rfl⟩
              rw [job?_park, if_pos rfl]
              exact congrArg (Option.map _) standing

/-! ## Stages of a request -/

/-- With the `n`-th event of a run a request is sent, to the address that was published last. -/
structure SendsAt (c : Coordinator) (choices : List Choice) (task : TaskId) (x : Exchange)
    (limit : Duration) (address : String) (n : Nat) : Prop where
  turn : ∃ waiting, c.TurnAt choices task (.request x limit waiting) n
  latest : c.LastPublished choices n (some address)
  posts : (c.before choices n).Posts task x limit address (c.before choices (n + 1))

/-- With the `n`-th event of a run a request gives up: no address has been published, and the end
of its wait has come. If its timer has not fired then, it had no time to wait, or nothing called for
this turn. -/
structure GivesUpAt (c : Coordinator) (choices : List Choice) (task : TaskId) (x : Exchange)
    (limit : Duration) (deadline : Instant) (n : Nat) : Prop where
  turn : ∃ waiting, c.TurnAt choices task (.request x limit waiting) n ∧
    ((c.before choices n).now < Instant.tick deadline →
      waiting = none ∨ ¬ (c.before choices n).Cued (.request x limit waiting))
  unpublished : c.LastPublished choices n none
  come : deadline ≤ (c.before choices n).now
  gives : (c.before choices n).GivesUp task x (c.before choices (n + 1))

/-- Where a request has come to before the `n`-th event of a run that began with the `m`-th one. -/
inductive AddressStage (c : Coordinator) (choices : List Choice) (task : TaskId) (x : Exchange)
    (limit : Duration) (m n : Nat) : Prop
  /-- It can run, at the instant at which it began. -/
  | begins (standing : (c.before choices n).job? task = some (.request x limit none))
      (ready : task ∈ (c.before choices n).ready)
      (now : (c.before choices n).now = (c.before choices m).now)
  /-- It waits. No address has been published, and its timer is still to fire. -/
  | waits {deadline : Instant} (ends : c.EndOfWait (c.before choices m).now deadline)
      (standing : (c.before choices n).job? task = some (.request x limit (some deadline)))
      (unpublished : c.LastPublished choices n none)
      (notAfter : (c.before choices n).now ≤ Instant.tick deadline)
      (fires : (c.before choices n).now = Instant.tick deadline → task ∈ (c.before choices n).ready)
  /-- It has waited until the first address was published. It can run, at that instant. -/
  | released {deadline : Instant} {p : Nat} (ends : c.EndOfWait (c.before choices m).now deadline)
      (standing : (c.before choices n).job? task = some (.request x limit (some deadline)))
      (ready : task ∈ (c.before choices n).ready) (first : c.FirstPublished choices p)
      (since : m < p) (before : p < n) (now : (c.before choices n).now = (c.before choices p).now)
      (notAfter : (c.before choices p).now ≤ Instant.tick deadline)
  /-- It was sent, as soon as it had begun and an address was published. -/
  | sent {address : String} {e p : Nat} (since : m < e) (before : e < n)
      (sends : c.SendsAt choices task x limit address e) (first : c.FirstPublished choices p)
      (publishedBefore : p < e)
      (atOnce : (c.before choices e).now = max (c.before choices m).now (c.before choices p).now)
      (inTime : ∀ deadline, c.EndOfWait (c.before choices m).now deadline →
        (c.before choices p).now ≤ max (c.before choices m).now (Instant.tick deadline))
  /-- It gave up, at once or when its timer fired at the latest. -/
  | gaveUp {deadline : Instant} {e : Nat} (since : m < e) (before : e < n)
      (ends : c.EndOfWait (c.before choices m).now deadline)
      (gives : c.GivesUpAt choices task x limit deadline e)
      (notAfter : (c.before choices e).now ≤
        max (c.before choices m).now (Instant.tick deadline))
  /-- It began before an address was published, and there is no timer for the end of its wait. -/
  | untimed {e : Nat} (since : m < e) (before : e < n)
      (unfit : ∀ deadline, ¬ c.EndOfWait (c.before choices m).now deadline)
      (unpublished : c.LastPublished choices e none)

section

variable (sound : c.Sound [] []) (tidy : c.Tidy) (calls : ∀ choice ∈ choices, choice.isCall)

include sound calls

/-- A turn of a request does nothing but wait or give up, unless the request is sent with it. -/
theorem TurnAt.untouched (unknown : c.replyAddress = none)
    (turn : c.TurnAt choices task (.request x limit waiting) n) :
    (∃ address, c.SendsAt choices task x limit address n) ∨
      Untouched (c.before choices n) (c.before choices (n + 1)) := by
  have last := sound.lastPublished unknown calls n
  have looks := (sound.before calls n).looks turn.standing
  rw [show (c.before choices n).turn task = c.before choices (n + 1) from
    (before_succ turn.turn).symm] at looks
  cases looks with
  | @sends address known posts => exact .inl ⟨address, ⟨waiting, turn⟩, known ▸ last, posts⟩
  | waits _ _ _ _ untouched => exact .inr untouched
  | givesUp _ _ _ gives => exact .inr gives.toUntouched
  | untimed _ _ untouched => exact .inr untouched

include tidy

/-- No time passes with a turn. -/
theorem now_succ_of_turn (own : choices[n]? = some (.turn task)) :
    (c.before choices (n + 1)).now = (c.before choices n).now := by
  rcases now_succ sound tidy calls n with same | ⟨instant, passes, _⟩
  · exact same
  · simp [own] at passes

/-- **The turn of a request** that is still to find an address. Whether it is the first turn or a
later one, it counts from the instant at which the request began (`patience`), and if an address is
known the turn comes at the instant at which it was published (`atOnce`). -/
theorem AddressStage.looked (unknown : c.replyAddress = none)
    (own : choices[n]? = some (.turn task)) (since : m < n)
    (standing : (c.before choices n).job? task = some (.request x limit waiting))
    (patience : (c.before choices n).addressDeadline? waiting =
      (c.before choices m).now.giveUp? c.config.replyAddressTimeout)
    (notAfter : ∀ deadline, c.EndOfWait (c.before choices m).now deadline →
      (c.before choices n).now ≤ max (c.before choices m).now (Instant.tick deadline))
    (atOnce : ∀ p < n, c.FirstPublished choices p →
      (c.before choices n).now = max (c.before choices m).now (c.before choices p).now) :
    c.AddressStage choices task x limit m (n + 1) := by
  have turn : c.TurnAt choices task (.request x limit waiting) n := ⟨own, standing⟩
  have last := sound.lastPublished unknown calls n
  have still := now_succ_of_turn sound tidy calls own
  have looks := (sound.before calls n).looks standing
  rw [show (c.before choices n).turn task = c.before choices (n + 1) from
    (before_succ own).symm] at looks
  have silent : ∀ address, ¬ c.PublishesAt choices address n := fun address publishes => by
    obtain ⟨due, searches⟩ := publishes.searches own
    simp [standing] at searches
  cases looks with
  | @sends address known posts =>
      rw [known] at last
      obtain ⟨p, before, first⟩ := last.exists_first
      refine .sent since (Nat.lt_succ_self n) ⟨⟨waiting, turn⟩, last, posts⟩ first before
        (atOnce p before first) fun deadline ends => ?_
      exact Nat.le_trans (now_mono sound tidy calls (Nat.le_of_lt before)) (notAfter deadline ends)
  | @waits deadline none asks early there _ =>
      rw [none] at last
      have behind := Nat.lt_of_lt_of_le early (Instant.le_tick deadline)
      refine .waits (endOfWait_iff.mpr (patience.symm.trans asks)) there (last.succ silent)
        (still ▸ Nat.le_of_lt behind) fun now => ?_
      exact absurd (still.symm.trans now) (Nat.ne_of_lt behind)
  | @givesUp deadline none asks come gives =>
      -- between the end of the wait and the timer, only a turn that nothing called for gives up
      rw [none] at last
      have ends : c.EndOfWait (c.before choices m).now deadline :=
        endOfWait_iff.mpr (patience.symm.trans asks)
      refine .gaveUp since (Nat.lt_succ_self n) ends
        ⟨⟨waiting, turn, fun early => ?_⟩, last, come, gives⟩ (notAfter deadline ends)
      cases waiting with
      | none => exact .inl rfl
      | some due =>
          refine .inr fun cued => ?_
          obtain rfl := Option.some.inj asks
          rcases cued with known | fired
          · simp [none] at known
          · exact Nat.not_lt.mpr fired early
  | untimed none unfit _ =>
      rw [none] at last
      refine .untimed since (Nat.lt_succ_self n) (fun deadline ends => ?_) last
      have fits := patience.trans (endOfWait_iff.mp ends)
      simp [unfit] at fits

/-- **Every turn of a request.** -/
theorem AddressStage.turn (unknown : c.replyAddress = none)
    (stage : c.AddressStage choices task x limit m n) (since : m < n)
    (own : choices[n]? = some (.turn task)) :
    c.AddressStage choices task x limit m (n + 1) := by
  have config := config_before sound tidy calls n
  have late := Nat.lt_succ_self n
  cases stage with
  | begins standing _ now =>
      refine .looked sound tidy calls unknown own since standing ?_ (fun deadline _ => ?_)
        fun p before _ => ?_
      · rw [addressDeadline?, config, now]
      · exact now ▸ Nat.le_max_left _ _
      · have earlier := now_mono sound tidy calls (Nat.le_of_lt before)
        rw [now] at earlier ⊢
        exact (Nat.max_eq_left earlier).symm
  | @waits deadline ends standing unpublished notAfter _ =>
      refine .looked sound tidy calls unknown own since standing (endOfWait_iff.mp ends).symm
        (fun other again => ?_) fun p before first => ?_
      · obtain rfl := ends.unique again
        exact Nat.le_trans notAfter (Nat.le_max_right _ _)
      · obtain ⟨address, publishes⟩ := first.publishes
        exact absurd publishes (unpublished p before address)
  | @released deadline q ends standing _ first after before now notAfter =>
      refine .looked sound tidy calls unknown own since standing (endOfWait_iff.mp ends).symm
        (fun other again => ?_) fun p _ again => ?_
      · obtain rfl := ends.unique again
        exact now ▸ Nat.le_trans notAfter (Nat.le_max_right _ _)
      · obtain rfl := again.unique first
        rw [now, Nat.max_eq_right (now_mono sound tidy calls (Nat.le_of_lt after))]
  | sent after before sends first publishedBefore atOnce inTime =>
      exact .sent after (Nat.lt_trans before late) sends first publishedBefore atOnce inTime
  | gaveUp after before ends gives notAfter =>
      exact .gaveUp after (Nat.lt_trans before late) ends gives notAfter
  | untimed after before unfit unpublished =>
      exact .untimed after (Nat.lt_trans before late) unfit unpublished

/-- **Every other event** leaves the request in its stage, or publishes the first address. -/
theorem AddressStage.foreign (unknown : c.replyAddress = none) (prompt : c.Prompt choices)
    (follows : c.Follows choices task x limit n)
    (stage : c.AddressStage choices task x limit m n) (since : m < n)
    (foreign : choices[n]? ≠ some (.turn task)) :
    c.AddressStage choices task x limit m (n + 1) := by
  obtain ⟨lets, undisturbed⟩ := follows.foreign sound tidy calls foreign
  have clock := now_succ sound tidy calls n
  have late := Nat.lt_succ_self n
  -- no time passes as long as the task can run
  have still : task ∈ (c.before choices n).ready →
      (c.before choices (n + 1)).now = (c.before choices n).now := by
    intro ready
    rcases clock with same | ⟨instant, passes, _⟩
    · exact same
    · rw [(prompt n instant passes).ready] at ready
      exact absurd ready List.not_mem_nil
  cases stage with
  | begins standing ready now =>
      have there := (lets.job?_iff rfl).mpr standing
      exact .begins there (undisturbed.alert there trivial) ((still ready).trans now)
  | @waits deadline ends standing unpublished notAfter fires =>
      have there := (lets.job?_iff rfl).mpr standing
      by_cases publishes : ∃ address, c.PublishesAt choices address n
      · obtain ⟨address, event, happens, publishes⟩ := publishes
        have known := sound.known unknown calls ⟨event, happens, publishes⟩ late
        have same : (c.before choices (n + 1)).now = (c.before choices n).now := by
          rcases clock with same | ⟨instant, passes, _⟩
          · exact same
          · obtain rfl := Option.some.inj (happens.symm.trans passes)
            cases publishes
        exact .released ends there (undisturbed.alert there (.inl known))
          ⟨unpublished, address, event, happens, publishes⟩ since late same notAfter
      · -- the clock stops at the timer of this task at the latest
        have early : (c.before choices (n + 1)).now ≤ Instant.tick deadline := by
          rcases clock with same | ⟨instant, passes, now⟩
          · exact same ▸ notAfter
          · have timer := (prompt n instant passes).timers _ (timer_of_job? standing rfl)
            exact now ▸ Nat.max_le.mpr ⟨notAfter, timer⟩
        exact .waits ends there (unpublished.succ fun address again => publishes ⟨address, again⟩)
          early fun now => undisturbed.alert there (.inr (Nat.le_of_eq now.symm))
  | released ends standing ready first after before now notAfter =>
      have there := (lets.job?_iff rfl).mpr standing
      obtain ⟨address, publishes⟩ := first.publishes
      have known := sound.known unknown calls publishes (Nat.lt_trans before late)
      exact .released ends there (undisturbed.alert there (.inl known)) first after
        (Nat.lt_trans before late) ((still ready).trans now) notAfter
  | sent after before sends first publishedBefore atOnce inTime =>
      exact .sent after (Nat.lt_trans before late) sends first publishedBefore atOnce inTime
  | gaveUp after before ends gives notAfter =>
      exact .gaveUp after (Nat.lt_trans before late) ends gives notAfter
  | untimed after before unfit unpublished =>
      exact .untimed after (Nat.lt_trans before late) unfit unpublished

end

/-! ## The end of the search -/

/-- A task does not look for the reply address any more. -/
def DoneLooking (c : Coordinator) (task : TaskId) : Prop :=
  c.job? task = none ∨ ∃ ticket, c.job? task = some (.suspended ticket)

theorem doneLooking_finish (c : Coordinator) (task : TaskId) (report : Report) :
    (c.finish task report).DoneLooking task :=
  .inl (c.job?_finish task report)

theorem doneLooking_collect (c : Coordinator) (task : TaskId) (ticket : Ticket) :
    (c.collect task ticket).DoneLooking task := by
  simp only [collect]
  split
  · split <;> exact doneLooking_finish _ task _
  · rw [DoneLooking, job?_park, if_pos rfl]
    cases c.job? task with
    | none => exact .inl rfl
    | some job => exact .inr ⟨ticket, rfl⟩

/-- A request whose transport has answered waits for its verdict, or ends. -/
theorem doneLooking_settleSend (c : Coordinator) (task : TaskId) (x : Exchange) (id : String)
    (limit : Duration) (answer : Except Failure (Option String)) :
    (c.settleSend task x id limit answer).DoneLooking task := by
  cases answer with
  | error failure => exact c.doneLooking_finish task _
  | ok assigned =>
      simp only [settleSend]
      split
      · exact c.doneLooking_finish task _
      · exact doneLooking_collect _ task _

/-- With the `n`-th event of a run a request ends its search for the reply address. -/
def EndsSearch (c : Coordinator) (choices : List Choice) (task : TaskId) (x : Exchange)
    (limit : Duration) (n : Nat) : Prop :=
  (∃ address, c.SendsAt choices task x limit address n) ∨
    ∃ deadline, c.GivesUpAt choices task x limit deadline n

theorem SendsAt.not_givesUpAt (sends : c.SendsAt choices task x limit address n) :
    ¬ c.GivesUpAt choices task x limit deadline n := fun gives => by
  obtain ⟨p, before, publishes, _⟩ := sends.latest
  exact gives.unpublished p before address publishes

theorem EndsSearch.doneLooking (ends : c.EndsSearch choices task x limit n) :
    (c.before choices (n + 1)).DoneLooking task := by
  rcases ends with ⟨address, sends⟩ | ⟨deadline, gives⟩
  · obtain ⟨sent, _, _, settles⟩ := sends.posts.goesOn
    rw [settles]
    exact sent.doneLooking_settleSend task x _ limit _
  · exact .inl gives.gives.gone

theorem EndsSearch.standing (ends : c.EndsSearch choices task x limit n) :
    ∃ waiting, (c.before choices n).job? task = some (.request x limit waiting) := by
  rcases ends with ⟨address, sends⟩ | ⟨deadline, gives⟩
  · obtain ⟨waiting, turn⟩ := sends.turn
    exact ⟨waiting, turn.standing⟩
  · obtain ⟨waiting, turn, _⟩ := gives.turn
    exact ⟨waiting, turn.standing⟩

/-- An address is published before an instant. -/
def PublishedBefore (c : Coordinator) (choices : List Choice) (instant : Instant) : Prop :=
  ∃ p address, c.PublishesAt choices address p ∧ (c.before choices p).now < instant

section

variable (sound : c.Sound [] []) (tidy : c.Tidy) (calls : ∀ choice ∈ choices, choice.isCall)

include sound tidy calls

/-- Who does not look for the address any more does not begin to. -/
theorem DoneLooking.succ (follows : c.Follows choices task x limit n)
    (done : (c.before choices n).DoneLooking task) :
    (c.before choices (n + 1)).DoneLooking task := by
  by_cases own : choices[n]? = some (.turn task)
  · rw [before_succ own]
    change ((c.before choices n).turn task).DoneLooking task
    rcases done with gone | ⟨ticket, standing⟩
    · rw [turn_of_ended gone]
      exact .inl gone
    · rw [turn_eq standing ((sound.before calls n).leads_called standing).sound.held]
      exact doneLooking_collect _ task ticket
  · obtain ⟨lets, _⟩ := follows.foreign sound tidy calls own
    exact done.imp lets.missing fun ⟨ticket, standing⟩ =>
      ⟨ticket, (lets.job?_iff rfl).mpr standing⟩

theorem EndsSearch.later (follows : ∀ n, m < n → c.Follows choices task x limit n) (after : m < n)
    (ends : c.EndsSearch choices task x limit n) (later : n < k) :
    (c.before choices k).DoneLooking task := by
  induction k, later using Nat.le_induction with
  | base => exact ends.doneLooking
  | succ k later ih =>
      exact ih.succ sound tidy calls (follows k (Nat.lt_trans after later))

/-- A request ends its search once. -/
theorem EndsSearch.unique (follows : ∀ n, m < n → c.Follows choices task x limit n)
    (after : m < n) (ends : c.EndsSearch choices task x limit n) (later : m < k)
    (again : c.EndsSearch choices task x limit k) : n = k := by
  have apart : ∀ {n k}, m < n → c.EndsSearch choices task x limit n →
      c.EndsSearch choices task x limit k → k ≤ n := by
    intro n k after ends again
    refine Nat.not_lt.mp fun less => ?_
    obtain ⟨waiting, standing⟩ := again.standing
    rcases ends.later sound tidy calls follows after less with gone | ⟨ticket, waits⟩
    · simp [gone] at standing
    · simp [waits] at standing
  exact Nat.le_antisymm (apart later again ends) (apart after ends again)

theorem begun_mono (earlier : n ≤ m) : (c.before choices n).begun ≤ (c.before choices m).begun := by
  induction m, earlier using Nat.le_induction with
  | base => exact Nat.le_refl _
  | succ m _ ih =>
      cases there : choices[m]? with
      | none => rwa [before_succ_of_none there]
      | some choice =>
          have stems := ((tidy.before sound calls m).step (sound.before calls m)
            (calls choice (List.mem_of_getElem? there))).1
          rw [before_succ there]
          exact Nat.le_trans ih stems.begun

/-- A request ends its search after it has begun. -/
theorem EndsSearch.after (ends : c.EndsSearch choices (c.before choices m).begun x limit n) :
    m < n := by
  refine Nat.not_le.mp fun early => ?_
  obtain ⟨waiting, standing⟩ := ends.standing
  have old := (tidy.before sound calls n).numbered.lt_begun standing
  exact Nat.not_lt.mpr (begun_mono sound tidy calls early) old

/-- **A whole run.** -/
theorem addressStage (unknown : c.replyAddress = none) (prompt : c.Prompt choices)
    (begins : choices[m]? = some (.spawn (.request x limit none))) (n : Nat) (later : m < n) :
    c.AddressStage choices (c.before choices m).begun x limit m n := by
  have follows := Follows.of_begins sound tidy calls (.address none) begins
  induction n, later using Nat.le_induction with
  | base =>
      have next : c.before choices (m + 1) = ((c.before choices m).spawn _).1 := before_succ begins
      have call : (Job.request x limit none).isCall = true := calls _ (List.mem_of_getElem? begins)
      obtain ⟨standing, undisturbed⟩ := (tidy.before sound calls m).undisturbed_spawn call
      rw [← next] at standing undisturbed
      exact .begins standing (undisturbed.alert standing trivial) (next ▸ rfl)
  | succ n later stage =>
      by_cases own : choices[n]? = some (.turn (c.before choices m).begun)
      · exact stage.turn sound tidy calls unknown later own
      · exact stage.foreign sound tidy calls unknown prompt (follows n later) later own

/-- Whoever looks for the address when the first one is published can run then. -/
theorem Follows.released (unknown : c.replyAddress = none)
    (follows : c.Follows choices task x limit p) (first : c.FirstPublished choices p)
    (standing : (c.before choices p).job? task = some (.request x limit waiting)) :
    task ∈ (c.before choices (p + 1)).ready := by
  obtain ⟨address, publishes⟩ := first.publishes
  have foreign : choices[p]? ≠ some (.turn task) := fun own => by
    obtain ⟨due, searches⟩ := publishes.searches own
    simp [standing] at searches
  obtain ⟨lets, undisturbed⟩ := follows.foreign sound tidy calls foreign
  refine undisturbed.alert ((lets.job?_iff rfl).mpr standing) ?_
  cases waiting with
  | none => trivial
  | some deadline => exact .inl (sound.known unknown calls publishes (Nat.lt_succ_self p))

theorem lt_of_now_lt (less : (c.before choices n).now < (c.before choices k).now) : n < k :=
  Nat.not_le.mp fun later => Nat.not_lt.mpr (now_mono sound tidy calls later) less

/-- An address that comes in time is used at once. -/
theorem AddressStage.sends (stage : c.AddressStage choices task x limit m n)
    (publishes : c.PublishesAt choices address p)
    (inTime : p < m ∨ ∃ deadline, c.EndOfWait (c.before choices m).now deadline ∧
      (c.before choices p).now < deadline)
    (passed : max (c.before choices m).now (c.before choices p).now < (c.before choices n).now) :
    ∃ e < n, ∃ latest, c.SendsAt choices task x limit latest e ∧
      (c.before choices e).now ≤ max (c.before choices m).now (c.before choices p).now := by
  obtain ⟨begun, published⟩ := Nat.max_lt.mp passed
  cases stage with
  | begins _ _ now => exact absurd now (Nat.ne_of_gt begun)
  | waits _ _ unpublished =>
      exact absurd publishes (unpublished p (lt_of_now_lt sound tidy calls published) address)
  | released _ _ _ first _ _ now =>
      have earlier := now_mono sound tidy calls (first.le publishes)
      exact absurd published (Nat.not_lt.mpr (now ▸ earlier))
  | sent _ before sends first _ atOnce =>
      refine ⟨_, before, _, sends, ?_⟩
      rw [atOnce]
      exact max_le_max_left _ (now_mono sound tidy calls (first.le publishes))
  | @gaveUp deadline e since _ ends gives =>
      rcases inTime with old | ⟨other, again, early⟩
      · exact absurd publishes (gives.unpublished p (Nat.lt_trans old since) address)
      · obtain rfl := ends.unique again
        have before := lt_of_now_lt sound tidy calls (Nat.lt_of_lt_of_le early gives.come)
        exact absurd publishes (gives.unpublished p before address)
  | untimed since _ unfit unpublished =>
      rcases inTime with old | ⟨deadline, ends, _⟩
      · exact absurd publishes (unpublished p (Nat.lt_trans old since) address)
      · exact absurd ends (unfit deadline)

/-- Once its timer has fired, a request has been sent or has given up. -/
theorem AddressStage.settled (stage : c.AddressStage choices task x limit m n)
    (ends : c.EndOfWait (c.before choices m).now deadline)
    (clear : ∀ p address, c.PublishesAt choices address p →
      (c.before choices p).now < deadline ∨
        max (c.before choices m).now (Instant.tick deadline) < (c.before choices p).now)
    (passed : max (c.before choices m).now (Instant.tick deadline) < (c.before choices n).now) :
    c.PublishedBefore choices deadline ∧
        (∃ e < n, ∃ address, c.SendsAt choices task x limit address e) ∨
      ¬ c.PublishedBefore choices deadline ∧
        ∃ e < n, c.GivesUpAt choices task x limit deadline e ∧
          (c.before choices e).now ≤ max (c.before choices m).now (Instant.tick deadline) := by
  obtain ⟨begun, fired⟩ := Nat.max_lt.mp passed
  cases stage with
  | begins _ _ now => exact absurd now (Nat.ne_of_gt begun)
  | waits again _ _ notAfter =>
      obtain rfl := ends.unique again
      exact absurd fired (Nat.not_lt.mpr notAfter)
  | released again _ _ _ _ _ now notAfter =>
      obtain rfl := ends.unique again
      exact absurd fired (Nat.not_lt.mpr (now ▸ notAfter))
  | @sent _ _ p _ before sends first _ _ inTime =>
      obtain ⟨address, publishes⟩ := first.publishes
      have early := (clear p address publishes).resolve_right (Nat.not_lt.mpr (inTime _ ends))
      exact .inl ⟨⟨p, address, publishes, early⟩, _, before, _, sends⟩
  | @gaveUp _ e _ before again gives notAfter =>
      obtain rfl := ends.unique again
      refine .inr ⟨fun ⟨p, address, publishes, early⟩ => ?_, e, before, gives, notAfter⟩
      have sooner := lt_of_now_lt sound tidy calls (Nat.lt_of_lt_of_le early gives.come)
      exact gives.unpublished p sooner address publishes
  | untimed _ _ unfit => exact absurd ends (unfit deadline)

end

/-- What becomes of a request that begins with the `m`-th event of a run and looks for the reply
address. -/
structure FindsAddress (c : Coordinator) (choices : List Choice) (task : TaskId) (x : Exchange)
    (limit : Duration) (m : Nat) : Prop where
  /-- Where it is before every event. -/
  stage : ∀ n, m < n → c.AddressStage choices task x limit m n
  /-- It is sent once or gives up once. -/
  once : ∀ n k, c.EndsSearch choices task x limit n → c.EndsSearch choices task x limit k → n = k
  /-- No turn of it sends or registers anything until the one with which it is sent. -/
  untouched : ∀ n waiting, c.TurnAt choices task (.request x limit waiting) n →
    (∃ address, c.SendsAt choices task x limit address n) ∨
      Untouched (c.before choices n) (c.before choices (n + 1))
  /-- If it looks for the address when the first one is published, it can run then. -/
  released : ∀ p waiting, m < p → c.FirstPublished choices p →
    (c.before choices p).job? task = some (.request x limit waiting) →
      task ∈ (c.before choices (p + 1)).ready
  /-- If an address was published before it began, or is before the end of its wait, it is sent as
  soon as both have happened. -/
  sends : ∀ p address, c.PublishesAt choices address p →
    (p < m ∨ ∃ deadline, c.EndOfWait (c.before choices m).now deadline ∧
      (c.before choices p).now < deadline) →
    ∀ n, m < n → max (c.before choices m).now (c.before choices p).now < (c.before choices n).now →
      ∃ e < n, ∃ latest, c.SendsAt choices task x limit latest e ∧
        (c.before choices e).now ≤ max (c.before choices m).now (c.before choices p).now
  /-- Once its timer has fired it was sent, if an address was published before the end of its wait,
  and has given up otherwise. This leaves out the addresses that are published between that end and
  the timer. -/
  settles : ∀ deadline closing n, c.EndOfWait (c.before choices m).now deadline →
    closing = max (c.before choices m).now (Instant.tick deadline) →
    (∀ p address, c.PublishesAt choices address p →
      (c.before choices p).now < deadline ∨ closing < (c.before choices p).now) →
    m < n → closing < (c.before choices n).now →
      ((∃ e < n, ∃ address, c.SendsAt choices task x limit address e) ↔
        c.PublishedBefore choices deadline) ∧
      ((∃ e < n, c.GivesUpAt choices task x limit deadline e ∧ (c.before choices e).now ≤ closing) ↔
        ¬ c.PublishedBefore choices deadline)

/-- **Waiting for the reply address.** -/
theorem addresses_awaited (config : CoordinatorConfig) (transport : Transport)
    (naming : Nat → String) (choices : List Choice) (calls : ∀ choice ∈ choices, choice.isCall)
    (prompt : (create config transport naming).Prompt choices) (x : Exchange) (limit : Duration)
    (m : Nat) (begins : choices[m]? = some (.spawn (.request x limit none))) :
    (create config transport naming).FindsAddress choices
      ((create config transport naming).before choices m).begun x limit m := by
  have sound := sound_create config transport naming
  have tidy := tidy_create config transport naming
  have unknown : (create config transport naming).replyAddress = none := rfl
  generalize create config transport naming = c at *
  have follows := Follows.of_begins sound tidy calls (.address none) begins
  have stage := addressStage sound tidy calls unknown prompt begins
  have once : ∀ n k, c.EndsSearch choices (c.before choices m).begun x limit n →
      c.EndsSearch choices (c.before choices m).begun x limit k → n = k := fun n k ends again =>
    ends.unique sound tidy calls follows (ends.after sound tidy calls)
      (again.after sound tidy calls) again
  refine ⟨stage, once, fun n waiting turn => turn.untouched sound calls unknown,
    fun p waiting after first standing => ?_,
    fun p address publishes inTime n later passed => ?_,
    fun deadline closing n ends sum clear later passed => ?_⟩
  · exact (follows p after).released sound tidy calls unknown first standing
  · exact (stage n later).sends sound tidy calls publishes inTime passed
  · subst sum
    -- it cannot have been sent and have given up
    have either : ∀ {e k address}, c.SendsAt choices _ x limit address e →
        ¬ c.GivesUpAt choices _ x limit deadline k := fun sends gives => by
      obtain rfl := once _ _ (.inl ⟨_, sends⟩) (.inr ⟨_, gives⟩)
      exact sends.not_givesUpAt gives
    rcases (stage n later).settled sound tidy calls ends clear passed with
      ⟨published, sent⟩ | ⟨unpublished, gaveUp⟩
    · refine ⟨iff_of_true sent published, iff_of_false ?_ (not_not_intro published)⟩
      rintro ⟨k, _, gives, _⟩
      obtain ⟨e, _, address, sends⟩ := sent
      exact either sends gives
    · refine ⟨iff_of_false ?_ unpublished, iff_of_true gaveUp unpublished⟩
      rintro ⟨e, _, address, sends⟩
      obtain ⟨k, _, gives, _⟩ := gaveUp
      exact either sends gives

/-- A transport whose reply address is not found, and that never replies. -/
def anonymous : Transport :=
  .ofLine (.loopback { Loopback.standard with
    silent := true, addressFailure := some "no such queue" })

/-- A coordinator at which requests wait for the address for ten milliseconds. -/
def tenMilliWait : Coordinator :=
  create { (default : CoordinatorConfig) with replyAddressTimeout := Duration.ofMillis 10 }
    anonymous fun _ => "a"

/-- Two requests wait, the second one from the sixth millisecond on. An address is published in the
twelfth. -/
def overlapping : List Choice :=
  [.start, .turn 0, .turn 1, .spawn (.request parcel (Duration.ofSeconds 20) none), .turn 2,
   .elapse 6000000, .spawn (.request parcel (Duration.ofSeconds 20) none), .turn 3,
   .elapse 10000000, .turn 2, .elapse 12000000, .publish "q", .turn 3, .elapse 17000000]

/-- The first request has given up by then, the second one is sent. -/
theorem addresses_awaited_overlapping :
    (∀ choice ∈ overlapping, choice.isCall) ∧ tenMilliWait.Prompt overlapping ∧
      overlapping[3]? = some (.spawn (.request parcel (Duration.ofSeconds 20) none)) ∧
      overlapping[6]? = some (.spawn (.request parcel (Duration.ofSeconds 20) none)) ∧
      (∃ e < 14, tenMilliWait.GivesUpAt overlapping 2 parcel (Duration.ofSeconds 20) 10000000 e ∧
        (tenMilliWait.before overlapping e).now ≤ 10000000) ∧
      ∃ e < 14, ∃ latest,
        tenMilliWait.SendsAt overlapping 3 parcel (Duration.ofSeconds 20) latest e ∧
        (tenMilliWait.before overlapping e).now ≤ 12000000 := by
  have calls : ∀ choice ∈ overlapping, choice.isCall := by decide
  have prompt : tenMilliWait.Prompt overlapping := by decide +kernel
  have only : ∀ p address, tenMilliWait.PublishesAt overlapping address p → p = 11 := by
    intro p address publishes
    have bound : p < 14 := publishes.lt_length
    have fails : (tenMilliWait.before overlapping p).transport.resolution =
        (Duration.zero, .error (.transport "no such queue")) := by interval_cases p <;> rfl
    have there := publishes.by_caller fails
    interval_cases p <;> simp [overlapping] at there ⊢
  have publishes : tenMilliWait.PublishesAt overlapping "q" 11 := ⟨_, rfl, .set "q"⟩
  have instant : (tenMilliWait.before overlapping 11).now = 12000000 := by decide +kernel
  have ends : tenMilliWait.EndOfWait (tenMilliWait.before overlapping 3).now 10000000 :=
    endOfWait_iff.mpr (by decide +kernel)
  have endsLater : tenMilliWait.EndOfWait (tenMilliWait.before overlapping 6).now 16000000 :=
    endOfWait_iff.mpr (by decide +kernel)
  have finds : ∀ m, overlapping[m]? =
      some (.spawn (.request parcel (Duration.ofSeconds 20) none)) →
        tenMilliWait.FindsAddress overlapping (tenMilliWait.before overlapping m).begun parcel
          (Duration.ofSeconds 20) m :=
    addresses_awaited _ anonymous (fun _ => "a") overlapping calls prompt parcel _
  refine ⟨calls, prompt, rfl, rfl, ?_, ?_⟩
  · refine (((finds 3 rfl).settles 10000000 10000000 14 ends (by decide +kernel)
      (fun p address again => ?_) (by decide) (by decide +kernel)).2).mpr ?_
    · obtain rfl := only p address again
      exact .inr (by decide +kernel)
    · rintro ⟨p, address, again, early⟩
      obtain rfl := only p address again
      rw [instant] at early
      simp at early
  · obtain ⟨e, before, latest, sends, atOnce⟩ := (finds 6 rfl).sends 11 "q" publishes
      (.inr ⟨_, endsLater, by decide +kernel⟩) 14 (by decide) (by decide +kernel)
    refine ⟨e, before, latest, sends, Nat.le_trans atOnce ?_⟩
    decide +kernel

/-- A coordinator at which requests wait for the address for half a millisecond. -/
def halfMilliWait : Coordinator :=
  create { (default : CoordinatorConfig) with replyAddressTimeout := Duration.ofNanos 500000 }
    anonymous fun _ => "a"

/-- The only address is published a tenth of a millisecond after that. -/
def withinTheTick : List Choice :=
  [.start, .turn 0, .turn 1, .spawn (.request parcel (Duration.ofSeconds 20) none), .turn 2,
   .elapse 600000, .publish "q", .turn 2]

/-- **Waits do not end exactly when the settings say.** One is released after that. -/
theorem waits_inexact :
    (∀ choice ∈ withinTheTick, choice.isCall) ∧ halfMilliWait.Prompt withinTheTick ∧
      (∀ p address, halfMilliWait.PublishesAt withinTheTick address p → p = 6) ∧
      (halfMilliWait.before withinTheTick 3).now.plus halfMilliWait.config.replyAddressTimeout <
        (halfMilliWait.before withinTheTick 6).now ∧
      (halfMilliWait.before withinTheTick 8).transport.sent.map (·.replyTo) = ["q"] := by
  refine ⟨by decide, by decide +kernel, fun p address publishes => ?_, by decide +kernel, rfl⟩
  have bound : p < 8 := publishes.lt_length
  have fails : (halfMilliWait.before withinTheTick p).transport.resolution =
      (Duration.zero, .error (.transport "no such queue")) := by interval_cases p <;> rfl
  have there := publishes.by_caller fails
  interval_cases p <;> simp [withinTheTick] at there ⊢

end Mediation.Coordinator
