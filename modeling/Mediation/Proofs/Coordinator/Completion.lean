import Mediation.Proofs.Coordinator.Conversations

/-!
# Every request returns

When all requests that were issued have been sent (`Concludes`), turns and time bring all of them
back (`Concludes.completes`). As long as tasks can run they take turns, and those come to an end
(`Serves.work_turn_lt`). Then the clock goes on to the next timer, which is later than now
(`Timely.lt_timer`) and not later than the next reply (`Serves.rests`); so the time that is left
until the last reply gets shorter.
-/

set_option autoImplicit false

namespace Mediation.Coordinator

variable {c : Coordinator} {settings : Loopback} {flight : Flight} {flights : List Flight}
  {first second : List Choice} {instant horizon : Instant}

/-- When no task can run, a request has returned, or its reply has a timer that is still to fire. -/
theorem Serves.rests (serves : c.Serves settings flights) (asleep : c.ready = [])
    (member : flight ∈ flights) : c.Returned settings flight ∨
      c.now < flight.arrival settings ∧ (flight.arrival settings, flight.carrier) ∈ c.timers := by
  obtain ⟨index, there⟩ := List.getElem?_of_mem member
  rcases serves.stages index flight there with flying | answered | returned
  · refine .inr ⟨Nat.lt_of_le_of_ne flying.due fun come => ?_, flying.timer asleep⟩
    exact absurd (asleep ▸ flying.comes come) List.not_mem_nil
  · exact absurd (asleep ▸ answered.ready) List.not_mem_nil
  · exact .inl returned

/-! ## Turns and time -/

/-- All requests have been sent, and those under way are served. -/
structure Concludes (c : Coordinator) (settings : Loopback) (flights : List Flight) : Prop where
  serves : c.Serves settings flights
  timely : c.Timely
  sent : ∀ issue : Issue, (issue.1, issue.job) ∉ c.tasks

theorem Concludes.launch?_eq_none (concludes : c.Concludes settings flights) (task : TaskId) :
    c.launch? (.turn task) = none := by
  cases standing : c.job? task with
  | none => simp [launch?, standing]
  | some job =>
      refine Coordinator.launch?_eq_none standing fun x timeout waiting same => ?_
      subst same
      have inside := concludes.serves.orderly.job?_eq_some_iff.mp standing
      cases concludes.serves.jobs _ inside with
      | background own => simp [Job.isBackground] at own
      | asks ready => exact concludes.sent (task, x, timeout) inside
      | carries there own errand flying => exact errand_ne_request _ _ _ _ _ _ errand

theorem Concludes.admits (concludes : c.Concludes settings flights) (task : TaskId) :
    ∀ flight, c.launch? (.turn task) = some flight → c.Admits settings flights flight := by
  intro flight launches
  rw [concludes.launch?_eq_none] at launches
  simp at launches

theorem Concludes.turn (concludes : c.Concludes settings flights) (replies : settings.Replies)
    (task : TaskId) : (c.turn task).Concludes settings flights := by
  have serves := concludes.serves
  have turned := serves.turn_cases replies task (concludes.admits task)
  have still := serves.turn replies task (concludes.admits task)
  rw [concludes.launch?_eq_none, Option.toList_none, List.append_nil] at still
  exact ⟨still, turned.timely serves concludes.timely,
    fun issue member => concludes.sent issue (turned.request_mem serves member)⟩

theorem Concludes.elapse (concludes : c.Concludes settings flights) (rests : c.Rests instant) :
    (c.elapse instant).Concludes settings flights :=
  ⟨concludes.serves.elapse rests, concludes.timely.elapse instant, concludes.sent⟩

/-- The events of a run in which nothing is asked any more. -/
def Choice.passes : Choice → Bool
  | .turn _ | .elapse _ => true
  | _ => false

/-- A run on which tasks take turns and time passes. -/
structure Reaches (c : Coordinator) (settings : Loopback) (flights : List Flight)
    (more : List Choice) : Prop where
  events : ∀ choice ∈ more, choice.passes
  prompt : c.Prompt more
  concludes : (c.run more).Concludes settings flights
  now : c.now ≤ (c.run more).now

theorem prompt_append (before : c.Prompt first) (after : (c.run first).Prompt second) :
    c.Prompt (first ++ second) := by
  intro n instant there
  rcases Nat.lt_or_ge n first.length with early | late
  · rw [List.getElem?_append_left early] at there
    rw [Coordinator.before, List.take_append_of_le_length (Nat.le_of_lt early)]
    exact before n instant there
  · rw [List.getElem?_append_right late] at there
    rw [Coordinator.before, List.take_append, List.take_of_length_le late, Coordinator.run,
      List.foldl_append]
    exact after _ instant there

theorem run_append (c : Coordinator) (first second : List Choice) :
    c.run (first ++ second) = (c.run first).run second :=
  List.foldl_append

theorem Reaches.trans (reaches : c.Reaches settings flights first)
    (goesOn : (c.run first).Reaches settings flights second) :
    c.Reaches settings flights (first ++ second) where
  events choice member := (List.mem_append.mp member).elim (reaches.events choice)
    (goesOn.events choice)
  prompt := prompt_append reaches.prompt goesOn.prompt
  concludes := by
    rw [run_append]
    exact goesOn.concludes
  now := by
    rw [run_append]
    exact Nat.le_trans reaches.now goesOn.now

theorem Concludes.reaches_nil (concludes : c.Concludes settings flights) :
    c.Reaches settings flights [] :=
  ⟨by simp, by simp [Prompt], concludes, Nat.le_refl _⟩

theorem Concludes.reaches_turn (concludes : c.Concludes settings flights)
    (replies : settings.Replies) (task : TaskId) : c.Reaches settings flights [.turn task] := by
  obtain ⟨_, live⟩ := concludes.serves.live
  refine ⟨by simp [Choice.passes], ?_, concludes.turn replies task, ?_⟩
  · intro n instant there
    cases List.mem_singleton.mp (List.mem_of_getElem? there)
  · exact Nat.le_of_eq (live.attentive.turn_cases live.sound task).1.now.symm

theorem Concludes.reaches_elapse (concludes : c.Concludes settings flights)
    (rests : c.Rests instant) : c.Reaches settings flights [.elapse instant] := by
  refine ⟨by simp [Choice.passes], ?_, concludes.elapse rests, Nat.le_max_left _ _⟩
  intro n again there
  obtain rfl : n = 0 := by
    have bound := (List.getElem?_eq_some_iff.mp there).1
    rw [List.length_singleton] at bound
    omega
  obtain rfl : instant = again := by simpa using there
  exact rests

/-! ## The end -/

/-- Tasks take turns until none can run. -/
theorem Concludes.settles (concludes : c.Concludes settings flights) (replies : settings.Replies) :
    ∃ more, c.Reaches settings flights more ∧ (c.run more).ready = [] := by
  induction work : c.work using Nat.strong_induction_on generalizing c with
  | _ bound ih =>
      cases ready : c.ready with
      | nil => exact ⟨[], concludes.reaches_nil, ready⟩
      | cons task rest =>
          have can : task ∈ c.ready := ready ▸ List.mem_cons_self
          have less := concludes.serves.work_turn_lt replies (concludes.admits task) can
          obtain ⟨more, goesOn, asleep⟩ := ih _ (work ▸ less) (concludes.turn replies task) rfl
          have turn := concludes.reaches_turn replies task
          refine ⟨_, turn.trans goesOn, ?_⟩
          rw [run_append]
          exact asleep

/-- If there is a timer, there is a next one. -/
theorem exists_next {timer : Instant × TaskId} (inside : timer ∈ c.timers) :
    ∃ next ∈ c.timers, ∀ other ∈ c.timers, next.1 ≤ other.1 := by
  cases least : (c.timers.map (·.1)).min? with
  | none =>
      rw [List.min?_eq_none_iff, List.map_eq_nil_iff] at least
      exact absurd (least ▸ inside) List.not_mem_nil
  | some due =>
      obtain ⟨member, first⟩ := List.min?_eq_some_iff.mp least
      obtain ⟨next, there, rfl⟩ := List.mem_map.mp member
      exact ⟨next, there, fun other again => first _ (List.mem_map_of_mem again)⟩

theorem left_lt {total now after next : Nat} (first : now ≤ after) (later : after < next)
    (inTime : next ≤ total) : total - next < total - now := by
  omega

/-- **All requests return.** -/
theorem Concludes.completes (concludes : c.Concludes settings flights) (replies : settings.Replies)
    (bound : ∀ flight ∈ flights, flight.arrival settings ≤ horizon) :
    ∃ more, c.Reaches settings flights more ∧
      ∀ flight ∈ flights, (c.run more).Returned settings flight := by
  -- the time until the last reply gets shorter
  induction left : horizon - c.now using Nat.strong_induction_on generalizing c with
  | _ span ih =>
      obtain ⟨turns, reaches, asleep⟩ := concludes.settles replies
      by_cases back : ∀ flight ∈ flights, (c.run turns).Returned settings flight
      · exact ⟨turns, reaches, back⟩
      · obtain ⟨flight, member, waits⟩ : ∃ flight ∈ flights,
            ¬ (c.run turns).Returned settings flight := by simpa using back
        have rests := reaches.concludes.serves.rests asleep member
        obtain ⟨_, timer⟩ := rests.resolve_left waits
        obtain ⟨next, there, least⟩ := exists_next timer
        have later := reaches.concludes.timely.lt_timer asleep next there
        have inTime := Nat.le_trans (least _ timer) (bound flight member)
        have rests : (c.run turns).Rests next.1 := ⟨asleep, least⟩
        have passes := reaches.concludes.reaches_elapse rests
        have clock : ((c.run turns).elapse next.1).now = next.1 :=
          Nat.max_eq_right (Nat.le_of_lt later)
        have shorter : horizon - next.1 < span := left ▸ left_lt reaches.now later inTime
        obtain ⟨more, goesOn, back⟩ := ih _ shorter (reaches.concludes.elapse rests) (by rw [clock])
        have whole := (reaches.trans passes).trans (by rw [run_append]; exact goesOn)
        refine ⟨_, whole, fun flight member => ?_⟩
        rw [run_append, run_append]
        exact back flight member

end Mediation.Coordinator
