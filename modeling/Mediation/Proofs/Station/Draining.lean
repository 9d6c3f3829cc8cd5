import Mediation.Proofs.Station.Timers

/-!
# How stops drain a handler

Whatever goes on at a handler, its station counts the guarded runs under way, however they leave. A
stop that has brought the handler to stopping returns without an error exactly when it looks and
nobody is under way, and with an error when its time of grace is over and somebody still is; the
handler is stopped then. It never sleeps on behind the last run that leaves (`Duty.stops_drain`).

There is one way out of this. If there is no timer for the time of grace, and somebody is under way,
the stop breaks off with the signal raised. The handler is then stopping for ever, since a start is
refused and another stop takes it to be under way already.
-/

set_option autoImplicit false

namespace Mediation

variable {Path : Type}

/-- Where the clock and its timers have room for it, time of grace is over when it has passed. -/
theorem Instant.giveUp?_eq_some {began : Instant} {grace : Duration}
    (room : Instant.origin + (began + grace.totalNanos) + (nanosPerMilli - 1) < Instant.beyond)
    (near : began + grace.totalNanos ≤ Instant.lastTimer) :
    began.giveUp? grace = some (began + grace.totalNanos) := by
  have times : began.Times grace := by
    unfold Instant.Times
    omega
  rw [Instant.giveUp?_of_holds times.holds]
  exact Instant.timer?_plus_eq_some_iff.mpr ⟨times, (Nat.min_eq_left near).symm⟩

namespace Duty

variable {s d : Duty Path} {token : Token} {call : StopCall} {choice : Choice}
  {choices : List Choice} {n m : Nat}

/-! ## Calls that have been answered -/

/-- A call of the stop is settled at an event: it began with it, or it waited until then. -/
structure SettlesAt (s : Duty Path) (choice : Choice) (token : Token) (call : StopCall) : Prop where
  waited : ∀ before, s.calls[token]? = some before → before.state = .waiting
  there : (s.step choice).calls[token]? = some call
  settled : call.state ≠ .waiting

/-- **How a call of the stop is settled**, between two moments. -/
inductive Settles (s d : Duty Path) (call : StopCall) : Station.StopState → Prop
  /-- The handler did not run; the call leaves it as it is. -/
  | unneeded : call.performed = false → s.isStoppable = false → d.station = s.station →
      Settles s d call (.over none)
  /-- Nobody is under way. -/
  | drained : call.performed = true → s.underWay = 0 → d.underWay = 0 →
      d.station.lifecycle.phase = .stopped → Settles s d call (.over none)
  /-- Its time of grace is over, and somebody is still under way. -/
  | late {deadline : Instant} : call.performed = true → 0 < s.underWay →
      call.began.giveUp? call.grace = some deadline → deadline ≤ s.now →
      d.station.lifecycle.phase = .stopped →
        Settles s d call (.over (some (.shutdownTimeout s.underWay)))
  /-- There is no timer for its time of grace. -/
  | beyondClock : call.performed = true → 0 < s.underWay →
      call.began.giveUp? call.grace = none → d.station.lifecycle.phase = .stopping →
        Settles s d call .beyondClock

theorem Sound.settles (sound : s.Sound) {station : Station} {state : Station.StopState}
    (turn : Station.StopTurn s.station s.now token call.began call.grace (station, state))
    (performed : call.performed = true) (same : d.stints = s.stints) (reached : d.station = station)
    (settled : state ≠ .waiting) : Settles s d call state := by
  have counts := sound.counts
  have underWay : d.underWay = s.underWay := by rw [Duty.underWay, same, Duty.underWay]
  subst reached
  generalize later : d.station = station at turn
  cases turn with
  | drained idle =>
      have nobody : s.underWay = 0 := counts ▸ idle
      exact .drained performed nobody (underWay.trans nobody) (by rw [later]; rfl)
  | late busy timed late =>
      rw [counts] at busy ⊢
      exact .late performed busy timed late (by rw [later]; rfl)
  | waits _ _ _ => exact absurd rfl settled
  | beyondClock busy untimed =>
      exact .beyondClock performed (counts ▸ busy) untimed (by rw [later]; rfl)

/-- Only stops have to do with calls. -/
theorem calls_step (quiet : ∀ grace, choice ≠ .stop grace)
    (still : ∀ token, choice ≠ .turnStop token) : (s.step choice).calls = s.calls := by
  cases choice with
  | enter x => rfl
  | handBack run handed scale => exact (s.advance_rest run _).2.2
  | turn run byTimer => exact (s.advance_rest run _).2.2
  | abandon run => exact (s.advance_rest run _).2.2
  | start =>
      simp only [step]
      split <;> rfl
  | stop grace => exact absurd rfl (quiet grace)
  | turnStop token => exact absurd rfl (still token)
  | elapse instant => rfl

/-- A call that was there already, and waited, is settled only by its own turn. -/
theorem SettlesAt.of_same (settles : s.SettlesAt choice token call)
    (same : (s.step choice).calls[token]? = s.calls[token]?) : False :=
  settles.settled (settles.waited call (same ▸ settles.there))

/-- **A call is settled** in one of four ways. -/
theorem Sound.settlesAt (sound : s.Sound) (settles : s.SettlesAt choice token call) :
    Settles s (s.step choice) call call.state := by
  by_cases begins : ∃ grace, choice = .stop grace
  · obtain ⟨grace, rfl⟩ := begins
    rcases sound.stop_cases grace with ⟨refused, same⟩ | ⟨_, _, _, station, state, turn, changed⟩
    · have there := settles.there
      rw [same] at there ⊢
      rcases call_of_append there with old | ⟨_, rfl⟩
      · exact absurd (settles.waited call old) settles.settled
      · exact .unneeded rfl refused rfl
    · have there := settles.there
      rw [changed] at there ⊢
      rcases call_of_append there with old | ⟨_, rfl⟩
      · exact absurd (settles.waited call old) settles.settled
      · exact sound.settles turn rfl rfl rfl settles.settled
  · by_cases goesOn : ∃ other, choice = .turnStop other
    · obtain ⟨other, rfl⟩ := goesOn
      rcases s.turnStop_cases other with same | ⟨known, there, waits⟩
      · exact (settles.of_same (by rw [same])).elim
      · obtain ⟨stop, rfl, wait⟩ := sound.watch.waitsAlone there waits
        obtain ⟨station, state, turn, changed⟩ := wait.turnStop
        by_cases mine : stop.token = token
        · subst mine
          have bound : stop.token < s.calls.length := (List.getElem?_eq_some_iff.mp there).1
          have here := settles.there
          rw [changed] at here ⊢
          obtain rfl : { known with state } = call :=
            Option.some.inj ((List.getElem?_set_self bound).symm.trans here)
          exact sound.settles turn wait.performed rfl rfl settles.settled
        · refine (settles.of_same ?_).elim
          rw [changed]
          exact List.getElem?_set_ne mine
    · have same := s.calls_step (fun grace same => begins ⟨grace, same⟩)
        fun other same => goesOn ⟨other, same⟩
      exact (settles.of_same (by rw [same])).elim

/-- A call that is settled stays so. -/
theorem settled_step (there : s.calls[token]? = some call) (settled : call.state ≠ .waiting)
    (choice : Choice) : (s.step choice).calls[token]? = some call := by
  have bound : token < s.calls.length := (List.getElem?_eq_some_iff.mp there).1
  by_cases begins : ∃ grace, choice = .stop grace
  · obtain ⟨grace, rfl⟩ := begins
    rw [step_stop]
    exact (List.getElem?_append_left bound).trans there
  · by_cases goesOn : ∃ other, choice = .turnStop other
    · obtain ⟨other, rfl⟩ := goesOn
      rcases s.turnStop_cases other with same | ⟨known, known_there, waits⟩
      · rwa [same]
      · rw [step_turnStop known_there waits]
        have apart : other ≠ token := by
          rintro rfl
          obtain rfl : known = call := Option.some.inj (known_there.symm.trans there)
          exact settled waits
        exact (List.getElem?_set_ne apart).trans there
    · rw [s.calls_step (fun grace same => begins ⟨grace, same⟩)
        fun other same => goesOn ⟨other, same⟩]
      exact there

theorem settled_before (there : (s.before choices n).calls[token]? = some call)
    (settled : call.state ≠ .waiting) (later : n ≤ m) :
    (s.before choices m).calls[token]? = some call := by
  induction m, later using Nat.le_induction with
  | base => exact there
  | succ m _ ih =>
      cases next : choices[m]? with
      | none => rwa [before_succ_of_none next]
      | some choice =>
          rw [before_succ next]
          exact settled_step ih settled choice

/-! ## Calls that wait -/

/-- How a call of the stop waits. -/
structure Waits (s : Duty Path) (token : Token) (call : StopCall) (deadline : Instant) : Prop where
  performed : call.performed = true
  timed : call.began.giveUp? call.grace = some deadline
  stopping : s.station.lifecycle.phase = .stopping
  /-- Once nobody is under way it has been told, so it can go on. -/
  told : s.underWay = 0 → ∃ stop ∈ s.station.stops, stop.token = token ∧ stop.woken = true
  /-- When it goes on then, it returns. -/
  returns : s.underWay = 0 →
    (s.step (.turnStop token)).calls[token]? = some { call with state := .over none }
  /-- When it goes on and its time of grace is over, it returns as well. -/
  expires : 0 < s.underWay → deadline ≤ s.now → (s.step (.turnStop token)).calls[token]? =
    some { call with state := .over (some (.shutdownTimeout s.underWay)) }

theorem Sound.waits (sound : s.Sound) (there : s.calls[token]? = some call)
    (waits : call.state = .waiting) : ∃ deadline, s.Waits token call deadline := by
  obtain ⟨stop, rfl, wait⟩ := sound.watch.waitsAlone there waits
  obtain ⟨station, state, turn, changed⟩ := wait.turnStop
  have bound : stop.token < s.calls.length := (List.getElem?_eq_some_iff.mp there).1
  have here : (s.step (.turnStop stop.token)).calls[stop.token]? = some { call with state } := by
    rw [changed]
    exact List.getElem?_set_self bound
  have counts := sound.counts
  refine ⟨stop.deadline, wait.performed, wait.timed, wait.alone.phase, ?_, ?_, ?_⟩
  · intro idle
    have woken : stop.woken = true := wait.told.resolve_right (by omega)
    exact ⟨stop, by rw [wait.alone.stops]; exact List.mem_singleton_self _, rfl, woken⟩
  · intro idle
    rw [here, turn.state_of_idle (counts.trans idle)]
  · intro busy late
    rw [here, turn.state_of_late (counts ▸ busy) wait.timed late, counts]

/-! ## Whole runs -/

/-- A stop that has broken off leaves the handler stopping, whatever happens then: no start, and no
other stop, brings it to anything else. -/
theorem stopping_behind_break (handler : Handler Path)
    (there : ((create handler).before choices n).calls[token]? = some call)
    (broken : call.state = .beyondClock) (later : n ≤ m) :
    call.began.giveUp? call.grace = none ∧
      ((create handler).before choices m).station.Signals .stopping [] := by
  have settled : call.state ≠ .waiting := fun waits => nomatch broken.symm.trans waits
  have still := settled_before there settled later
  have off := (sound_before handler choices m).watch.brokenOff still broken
  exact ⟨off.untimed, off.alone⟩

/-- What becomes of the runs under way and of the stops in a whole run of a duty. -/
structure Drains (s : Duty Path) (choices : List Choice) : Prop where
  /-- The station counts the runs under way. -/
  counts : ∀ n, (s.before choices n).station.inFlight = (s.before choices n).underWay
  /-- A call of the stop is settled in one of four ways, and stays so. -/
  settles : ∀ n choice token call, choices[n]? = some choice →
    (s.before choices n).SettlesAt choice token call →
      Settles (s.before choices n) (s.before choices (n + 1)) call call.state ∧
        ∀ m, n < m → (s.before choices m).calls[token]? = some call
  /-- A call that waits has been told as soon as nobody is under way, and may return then. -/
  waits : ∀ n (token : Token) (call : StopCall),
    (s.before choices n).calls[token]? = some call → call.state = .waiting →
      ∃ deadline, (s.before choices n).Waits token call deadline
  /-- It does not wait for a moment behind the last run that leaves, nor behind the timer of its
  grace. -/
  prompt : s.Prompt choices → ∀ n instant (token : Token) (call : StopCall),
    choices[n]? = some (.elapse instant) → (s.before choices n).calls[token]? = some call →
    call.state = .waiting →
      0 < (s.before choices n).underWay ∧ ∀ deadline,
        call.began.giveUp? call.grace = some deadline →
          max (s.before choices n).now instant ≤ Instant.tick deadline
  /-- Only a stop for whose grace there is no timer breaks off, and the handler is stopping from
  then on. -/
  stuck : ∀ n (token : Token) (call : StopCall), (s.before choices n).calls[token]? = some call →
    call.state = .beyondClock → call.began.giveUp? call.grace = none ∧
      ∀ m, n ≤ m → (s.before choices m).station.Signals .stopping []
  /-- Where the clock and its timers have room for it, time of grace is over when it has passed. -/
  elapses : ∀ (began : Instant) (grace : Duration),
    Instant.origin + (began + grace.totalNanos) + (nanosPerMilli - 1) < Instant.beyond →
    began + grace.totalNanos ≤ Instant.lastTimer →
      began.giveUp? grace = some (began + grace.totalNanos)

/-- **Stops drain a handler.** However guarded runs come and go, the station counts them. A stop
that brings the handler to stopping returns without an error exactly when it finds nobody under way,
and with the number of those under way when its time of grace is over. It leaves the handler stopped
in both cases, and the last run that leaves does not let it wait. -/
theorem stops_drain (handler : Handler Path) (choices : List Choice) :
    Drains (create handler) choices := by
  have sound := sound_before handler choices
  refine ⟨fun n => (sound n).counts, ?_, fun n token call there => (sound n).waits there, ?_, ?_,
    fun began grace => Instant.giveUp?_eq_some⟩
  · intro n choice token call there settles
    have here : ((create handler).before choices (n + 1)).calls[token]? = some call := by
      rw [before_succ there]
      exact settles.there
    refine ⟨?_, fun m later => settled_before here settles.settled later⟩
    rw [before_succ there]
    exact (sound n).settlesAt settles
  · intro prompt n instant token call elapses there waits
    obtain ⟨stop, rfl, wait⟩ := (sound n).watch.waitsAlone there waits
    have member : stop ∈ ((create handler).before choices n).station.stops := by
      rw [wait.alone.stops]
      exact List.mem_singleton_self stop
    obtain ⟨untold, early⟩ := (prompt n instant elapses).stops stop member
    have busy := wait.told.resolve_left (Bool.eq_false_iff.mp untold)
    refine ⟨(sound n).counts ▸ busy, ?_⟩
    intro deadline timed
    obtain rfl : stop.deadline = deadline := Option.some.inj (wait.timed.symm.trans timed)
    exact Nat.max_le.mpr ⟨(punctual_before handler prompt n).stops stop member, early⟩
  · intro n token call there broken
    exact ⟨(stopping_behind_break handler there broken (Nat.le_refl n)).1,
      fun m later => (stopping_behind_break handler there broken later).2⟩

/-- With the longest grace that the clock has room for, there is no timer. The stop breaks off, and
another one has nothing to do any more although the handler has not stopped. -/
example (handler : Handler Path) (x : Exchange) :
    let longest : Duration := ⟨Instant.beyond - Instant.origin - 1, by decide⟩
    let stuck := (create handler).run [.enter x, .stop longest, .stop Duration.zero]
    stuck.calls.map StopCall.state = [.beyondClock, .over none] ∧
      stuck.station.lifecycle.phase = .stopping := by
  cbv

end Duty

end Mediation
