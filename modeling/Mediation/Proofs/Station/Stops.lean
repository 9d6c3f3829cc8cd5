import Mediation.Proofs.Station.Duty

/-!
# What a stop can do

A stop that brings a handler to stopping ends in one of four ways when it looks, at its beginning
and each time that it goes on (`Station.StopTurn`): nobody is under way; its time of grace is over;
it waits, until it is told or the time is over; or it breaks off, because there is no timer for its
grace. The first two leave the handler stopped, the others stopping.

In a duty at most one stop waits at a time, and as long as it does the handler is stopping. It has
been told as soon as nobody is under way (`Duty.Sound`).
-/

set_option autoImplicit false

namespace Mediation

variable {Path : Type}

/-! ## Stations -/

namespace Station

variable {station : Station} {now began : Instant} {token : Token} {grace : Duration}

theorem inFlight_leave (station : Station) : station.leave.inFlight = station.inFlight - 1 := by
  unfold leave
  split
  · next last => rw [last]
  · rfl

theorem lifecycle_leave (station : Station) : station.leave.lifecycle = station.lifecycle := by
  unfold leave
  split <;> rfl

/-- The station in a phase in which the shutdown signal is raised, with these stops. -/
def signalling (station : Station) (phase : Phase) (stops : List StopWait) : Station :=
  { station with lifecycle := { station.lifecycle with phase, signal := true }, stops }

/-- The station is in a phase in which the shutdown signal is raised, with these stops. -/
structure Signals (station : Station) (phase : Phase) (stops : List StopWait) : Prop where
  phase : station.lifecycle.phase = phase
  signal : station.lifecycle.signal = true
  stops : station.stops = stops

theorem signals_signalling (station : Station) (phase : Phase) (stops : List StopWait) :
    (station.signalling phase stops).Signals phase stops := ⟨rfl, rfl, rfl⟩

/-- What a stop that was performed can do when it looks. -/
inductive StopTurn (station : Station) (now : Instant) (token : Token) (began : Instant)
    (grace : Duration) : Station × StopState → Prop
  | drained : station.inFlight = 0 →
      StopTurn station now token began grace (station.signalling .stopped [], .over none)
  | late {deadline : Instant} : 0 < station.inFlight → began.giveUp? grace = some deadline →
      deadline ≤ now →
        StopTurn station now token began grace
          (station.signalling .stopped [], .over (some (.shutdownTimeout station.inFlight)))
  | waits {deadline : Instant} : 0 < station.inFlight → began.giveUp? grace = some deadline →
      now < deadline →
        StopTurn station now token began grace
          (station.signalling .stopping [{ token, deadline, woken := false }], .waiting)
  | beyondClock : 0 < station.inFlight → began.giveUp? grace = none →
      StopTurn station now token began grace (station.signalling .stopping [], .beyondClock)

/-- A stop does not change how many runs are under way. -/
theorem StopTurn.inFlight {later : Station} {state : StopState}
    (turn : StopTurn station now token began grace (later, state)) :
    later.inFlight = station.inFlight := by
  cases turn <;> rfl

theorem StopTurn.state_of_idle {later : Station} {state : StopState}
    (turn : StopTurn station now token began grace (later, state)) (idle : station.inFlight = 0) :
    state = .over none := by
  cases turn with
  | drained _ => rfl
  | late busy _ _ => omega
  | waits busy _ _ => omega
  | beyondClock busy _ => omega

theorem StopTurn.state_of_late {later : Station} {state : StopState} {deadline : Instant}
    (turn : StopTurn station now token began grace (later, state)) (busy : 0 < station.inFlight)
    (timed : began.giveUp? grace = some deadline) (late : deadline ≤ now) :
    state = .over (some (.shutdownTimeout station.inFlight)) := by
  cases turn with
  | drained idle => omega
  | late _ _ _ => rfl
  | waits _ same early =>
      obtain rfl := Option.some.inj (timed.symm.trans same)
      exact absurd late (Nat.not_le_of_lt early)
  | beyondClock _ untimed => exact nomatch timed.symm.trans untimed

/-- Whatever a stop does, the signal is raised. -/
theorem StopTurn.signalled {later : Station} {state : StopState}
    (turn : StopTurn station now token began grace (later, state)) :
    later.signalled = true ∧
      (later.lifecycle.phase = .stopping ∨ later.lifecycle.phase = .stopped) := by
  cases turn with
  | drained _ => exact ⟨rfl, .inr rfl⟩
  | late _ _ _ => exact ⟨rfl, .inr rfl⟩
  | waits _ _ _ => exact ⟨rfl, .inl rfl⟩
  | beyondClock _ _ => exact ⟨rfl, .inl rfl⟩

/-- A stop waits only for an instant that is still to come. -/
theorem StopTurn.le_deadline {later : Station} {state : StopState} {stop : StopWait}
    (turn : StopTurn station now token began grace (later, state)) (waits : stop ∈ later.stops) :
    now ≤ stop.deadline := by
  cases turn with
  | drained _ => nomatch waits
  | late _ _ _ => nomatch waits
  | beyondClock _ _ => nomatch waits
  | waits _ _ early =>
      rw [List.mem_singleton.mp waits]
      exact Nat.le_of_lt early

/-- A handler that stops or is stopped is left as it is. -/
theorem beginStop_of_signalling
    (phase : station.lifecycle.phase = .stopping ∨ station.lifecycle.phase = .stopped) :
    station.beginStop now token grace = (station, .over none) := by
  obtain ⟨⟨component, phase, signal⟩, inFlight, stops⟩ := station
  unfold beginStop
  generalize now.giveUp? grace = timer
  rcases phase with rfl | rfl <;> rfl

/-- A stop looks. -/
theorem stopTurn_lookIdle {deadline : Instant} (timed : began.giveUp? grace = some deadline) :
    StopTurn station now token began grace
      ((station.signalling .stopping []).lookIdle now token deadline) := by
  unfold lookIdle
  split
  · next idle => exact .drained idle
  · next busy =>
      have underWay : 0 < station.inFlight := Nat.pos_of_ne_zero busy
      split
      · next late => exact .late underWay timed late
      · next early => exact .waits underWay timed (Nat.lt_of_not_le early)

/-- A stop begins at a handler that can be stopped. -/
theorem stopTurn_beginStop (stoppable : station.lifecycle.phase ≠ .stopping ∧
      station.lifecycle.phase ≠ .stopped) (alone : station.stops = []) :
    StopTurn station now token now grace (station.beginStop now token grace) := by
  have begins : station.beginStop now token grace = (now.giveUp? grace).elim
      (if station.inFlight = 0 then (station.signalling .stopping []).concludeStop token true
        else (station.signalling .stopping [], .beyondClock))
      fun deadline => (station.signalling .stopping []).lookIdle now token deadline := by
    obtain ⟨⟨component, phase, signal⟩, inFlight, stops⟩ := station
    obtain rfl : stops = [] := alone
    unfold beginStop
    generalize now.giveUp? grace = timer
    cases phase with
    | stopping => exact absurd rfl stoppable.1
    | stopped => exact absurd rfl stoppable.2
    | _ => cases timer <;> rfl
  rw [begins]
  cases timed : now.giveUp? grace with
  | some deadline => exact stopTurn_lookIdle timed
  | none =>
      simp only [Option.elim_none]
      split
      · next idle => exact .drained idle
      · next busy => exact .beyondClock (Nat.pos_of_ne_zero busy) timed

/-- A stop goes on that waits alone. -/
theorem stopTurn_continueStop {stop : StopWait} (alone : station.Signals .stopping [stop])
    (mine : stop.token = token) (timed : began.giveUp? grace = some stop.deadline)
    (told : stop.woken = true ∨ 0 < station.inFlight) :
    StopTurn station now token began grace (station.continueStop now token) := by
  obtain ⟨⟨component, phase, signal⟩, inFlight, stops⟩ := station
  obtain ⟨token, deadline, woken⟩ := stop
  obtain ⟨rfl, rfl, rfl⟩ := alone
  subst mine
  have look : ∀ station : Station, station.stops = [⟨token, deadline, woken⟩] →
      station.continueStop now token =
        if woken then ({ station with stops := [] } : Station).lookIdle now token deadline
        else if deadline ≤ now then
          ({ station with stops := [] } : Station).concludeStop token false
        else (station, .waiting) := by
    intro station same
    simp [continueStop, lookIdle, concludeStop, withoutStop, same]
  rw [look _ rfl]
  cases woken with
  | true => exact stopTurn_lookIdle timed
  | false =>
      have underWay : 0 < inFlight := told.resolve_left Bool.false_ne_true
      simp only [Bool.false_eq_true, if_false]
      split
      · next late => exact .late underWay timed late
      · next early => exact .waits underWay timed (Nat.lt_of_not_le early)

/-- A start that is not refused lowers the signal. -/
theorem start_eq_ok {later : Station} (starts : station.start = .ok later) :
    (station.lifecycle.phase = .created ∨ station.lifecycle.phase = .stopped) ∧
      later = { station with
        lifecycle := { station.lifecycle with phase := .started, signal := false } } := by
  obtain ⟨⟨component, phase, signal⟩, inFlight, stops⟩ := station
  cases phase with
  | created => exact ⟨.inl rfl, (Except.ok.inj starts).symm⟩
  | stopped => exact ⟨.inr rfl, (Except.ok.inj starts).symm⟩
  | _ => nomatch starts

end Station

/-! ## Duties -/

/-- A call of the stop has returned. -/
def StopCall.Returned (call : StopCall) : Prop := ∃ error, call.state = .over error

namespace Duty

variable {s d : Duty Path} {token : Token}

/-- All calls of the stop have returned, except for one at most. -/
def AllReturnedBut (s : Duty Path) (token : Token) : Prop :=
  ∀ other call, s.calls[other]? = some call → other = token ∨ call.Returned

/-- A call of the stop waits, alone, and has been told if nobody is under way. -/
structure WaitsAlone (s : Duty Path) (stop : StopWait) (call : StopCall) : Prop where
  alone : s.station.Signals .stopping [stop]
  there : s.calls[stop.token]? = some call
  waits : call.state = .waiting
  performed : call.performed = true
  timed : call.began.giveUp? call.grace = some stop.deadline
  told : stop.woken = true ∨ 0 < s.station.inFlight
  others : s.AllReturnedBut stop.token

/-- A call of the stop has broken off, and has left the handler stopping. -/
structure BrokenOff (s : Duty Path) (token : Token) (call : StopCall) : Prop where
  alone : s.station.Signals .stopping []
  there : s.calls[token]? = some call
  broken : call.state = .beyondClock
  performed : call.performed = true
  untimed : call.began.giveUp? call.grace = none
  others : s.AllReturnedBut token

/-- How the calls of the stop stand. -/
inductive Watch (s : Duty Path) : Prop
  | quiet : s.station.stops = [] → (∀ call ∈ s.calls, call.Returned) → Watch s
  | waiting {stop : StopWait} {call : StopCall} : s.WaitsAlone stop call → Watch s
  | stuck {token : Token} {call : StopCall} : s.BrokenOff token call → Watch s

/-- A duty in the middle of a run. -/
structure Sound (s : Duty Path) : Prop where
  /-- The station counts the runs under way. -/
  counts : s.station.inFlight = s.underWay
  /-- The signal is raised exactly while the handler stops or is stopped. -/
  signal : s.station.signalled = true ↔
    s.station.lifecycle.phase = .stopping ∨ s.station.lifecycle.phase = .stopped
  watch : s.Watch

theorem sound_create (handler : Handler Path) : (create handler).Sound where
  counts := rfl
  signal := by simp [create, Station.create, Station.signalled, Lifecycle.create]
  watch := .quiet rfl (by simp [create])

/-! ### Runs come and go -/

/-- Stops do not mind those who enter, and time that passes. -/
theorem Watch.of_same (watch : s.Watch) (calls : d.calls = s.calls)
    (lifecycle : d.station.lifecycle = s.station.lifecycle)
    (stops : d.station.stops = s.station.stops)
    (underWay : 0 < s.station.inFlight → 0 < d.station.inFlight) : d.Watch := by
  have signals : ∀ {phase waits}, s.station.Signals phase waits → d.station.Signals phase waits :=
    fun ⟨phase, signal, waits⟩ =>
      ⟨by rw [lifecycle, phase], by rw [lifecycle, signal], by rw [stops, waits]⟩
  have returned : ∀ {token}, s.AllReturnedBut token → d.AllReturnedBut token :=
    fun all other call there => all other call (calls ▸ there)
  cases watch with
  | quiet idle all => exact .quiet (stops.trans idle) (calls ▸ all)
  | waiting wait =>
      exact .waiting { wait with
        alone := signals wait.alone
        there := calls ▸ wait.there
        told := wait.told.imp id underWay
        others := returned wait.others }
  | stuck off =>
      exact .stuck { off with
        alone := signals off.alone
        there := calls ▸ off.there
        others := returned off.others }

/-- The last run that leaves tells the stop that waits. -/
theorem Watch.leave (watch : s.Watch) (calls : d.calls = s.calls)
    (left : d.station = s.station.leave) : d.Watch := by
  by_cases last : s.station.inFlight = 1
  · have station : d.station = { s.station with
        inFlight := 0
        stops := s.station.stops.map fun stop => { stop with woken := true } } := by
      rw [left, Station.leave, if_pos last]
    cases watch with
    | quiet idle all => exact .quiet (by rw [station, idle]; rfl) (calls ▸ all)
    | @waiting stop call wait =>
        have signals : d.station.Signals .stopping [{ stop with woken := true }] := by
          rw [station]
          exact ⟨wait.alone.phase, wait.alone.signal, by rw [wait.alone.stops]; rfl⟩
        exact .waiting { wait with
          alone := signals
          there := calls ▸ wait.there
          told := .inl rfl
          others := fun other call there => wait.others other call (calls ▸ there) }
    | stuck off =>
        have signals : d.station.Signals .stopping [] := by
          rw [station]
          exact ⟨off.alone.phase, off.alone.signal, by rw [off.alone.stops]; rfl⟩
        exact .stuck { off with
          alone := signals
          there := calls ▸ off.there
          others := fun other call there => off.others other call (calls ▸ there) }
  · have station : d.station = { s.station with inFlight := s.station.inFlight - 1 } := by
      rw [left, Station.leave, if_neg last]
    refine watch.of_same calls (by rw [station]) (by rw [station]) fun busy => ?_
    rw [station]
    change 0 < s.station.inFlight - 1
    omega

theorem Sound.advance (sound : s.Sound) (run : Nat) (change : Stint Path → Stint Path) :
    (s.advance run change).Sound := by
  rcases s.advance_eq run change with same | ⟨stint, there, underWay, changed⟩
  · rwa [same]
  · rw [changed]
    have bound : run < s.stints.length := (List.getElem?_eq_some_iff.mp there).1
    have here : s.stints[run] = stint := (List.getElem?_eq_some_iff.mp there).2
    have some : 0 < s.underWay :=
      List.countP_pos_iff.mpr ⟨stint, List.mem_of_getElem? there, by simp [underWay]⟩
    have counted := List.countP_set (p := fun stint => !stint.isOver) (a := change stint) bound
    rw [here, underWay] at counted
    cases ended : (change stint).isOver with
    | true =>
        refine ⟨?_, ?_, sound.watch.leave rfl rfl⟩
        · change s.station.leave.inFlight = (s.stints.set run (change stint)).countP _
          rw [Station.inFlight_leave, sound.counts, counted, ended]
          rfl
        · change s.station.leave.lifecycle.signal = true ↔
            s.station.leave.lifecycle.phase = .stopping ∨ s.station.leave.lifecycle.phase = .stopped
          rw [Station.lifecycle_leave]
          exact sound.signal
    | false =>
        refine ⟨?_, sound.signal, sound.watch.of_same rfl rfl rfl id⟩
        change s.station.inFlight = (s.stints.set run (change stint)).countP _
        rw [sound.counts, counted, ended]
        exact (Nat.sub_add_cancel some).symm

theorem Sound.enter (sound : s.Sound) (x : Exchange) : (s.step (.enter x)).Sound where
  counts := by
    change s.station.inFlight + 1 = (s.stints ++ [Stint.enter x]).countP _
    rw [List.countP_append, sound.counts]
    rfl
  signal := sound.signal
  watch := sound.watch.of_same rfl rfl rfl fun _ => Nat.succ_pos _

/-! ### Starts and stops -/

theorem Sound.start (sound : s.Sound) : (s.step .start).Sound := by
  simp only [step]
  cases starts : s.station.start with
  | error refusal => exact sound
  | ok later =>
      obtain ⟨phase, rfl⟩ := Station.start_eq_ok starts
      refine ⟨sound.counts, by simp [Station.signalled], ?_⟩
      cases sound.watch with
      | quiet idle all => exact .quiet idle all
      | waiting wait => simp [wait.alone.phase] at phase
      | stuck off => simp [off.alone.phase] at phase

theorem isStoppable_iff : s.isStoppable = true ↔ s.station.lifecycle.phase ≠ .stopping ∧
    s.station.lifecycle.phase ≠ .stopped := by
  unfold isStoppable
  cases s.station.lifecycle.phase <;> simp

/-- **How a stop begins.** -/
theorem Sound.stop_cases (sound : s.Sound) (grace : Duration) :
    (s.isStoppable = false ∧ s.step (.stop grace) =
      { s with calls := s.calls ++ [⟨s.now, grace, false, .over none⟩] }) ∨
    s.isStoppable = true ∧ s.station.stops = [] ∧ (∀ call ∈ s.calls, call.Returned) ∧
      ∃ station state,
        Station.StopTurn s.station s.now s.calls.length s.now grace (station, state) ∧
        s.step (.stop grace) =
          { s with station, calls := s.calls ++ [⟨s.now, grace, true, state⟩] } := by
  rw [step_stop]
  by_cases phase : s.station.lifecycle.phase = .stopping ∨ s.station.lifecycle.phase = .stopped
  · have refused : s.isStoppable = false := by
      rcases phase with phase | phase <;> simp [isStoppable, phase]
    exact .inl ⟨refused, by rw [Station.beginStop_of_signalling phase, refused]⟩
  · obtain ⟨notStopping, notStopped⟩ := not_or.mp phase
    have stoppable := isStoppable_iff.mpr ⟨notStopping, notStopped⟩
    rw [stoppable]
    cases sound.watch with
    | quiet idle all =>
        exact .inr ⟨rfl, idle, all, _, _,
          Station.stopTurn_beginStop ⟨notStopping, notStopped⟩ idle, rfl⟩
    | waiting wait => exact absurd wait.alone.phase notStopping
    | stuck off => exact absurd off.alone.phase notStopping

/-- At most one call has not returned. -/
theorem Watch.outstanding (watch : s.Watch) {call : StopCall} (there : s.calls[token]? = some call)
    (outstanding : ¬ call.Returned) :
    (∃ stop, stop.token = token ∧ s.WaitsAlone stop call) ∨ s.BrokenOff token call := by
  cases watch with
  | quiet _ all => exact absurd (all call (List.mem_of_getElem? there)) outstanding
  | @waiting stop other wait =>
      obtain rfl : token = stop.token := (wait.others token call there).resolve_right outstanding
      obtain rfl : other = call := Option.some.inj (wait.there.symm.trans there)
      exact .inl ⟨stop, rfl, wait⟩
  | @stuck other broken off =>
      obtain rfl : token = other := (off.others token call there).resolve_right outstanding
      obtain rfl : broken = call := Option.some.inj (off.there.symm.trans there)
      exact .inr off

theorem Watch.waitsAlone (watch : s.Watch) {call : StopCall} (there : s.calls[token]? = some call)
    (waits : call.state = .waiting) : ∃ stop, stop.token = token ∧ s.WaitsAlone stop call := by
  have outstanding : ¬ call.Returned := fun ⟨_, ended⟩ => nomatch waits.symm.trans ended
  rcases watch.outstanding there outstanding with wait | off
  · exact wait
  · exact nomatch waits.symm.trans off.broken

theorem Watch.brokenOff (watch : s.Watch) {call : StopCall} (there : s.calls[token]? = some call)
    (broken : call.state = .beyondClock) : s.BrokenOff token call := by
  have outstanding : ¬ call.Returned := fun ⟨_, ended⟩ => nomatch broken.symm.trans ended
  rcases watch.outstanding there outstanding with ⟨_, _, wait⟩ | off
  · exact nomatch broken.symm.trans wait.waits
  · exact off

/-- **How a stop goes on** that waits. -/
theorem WaitsAlone.turnStop {stop : StopWait} {call : StopCall} (wait : s.WaitsAlone stop call) :
    ∃ station state,
      Station.StopTurn s.station s.now stop.token call.began call.grace (station, state) ∧
        s.step (.turnStop stop.token) =
          { s with station, calls := s.calls.set stop.token { call with state } } :=
  ⟨_, _, Station.stopTurn_continueStop wait.alone rfl wait.timed wait.told,
    step_turnStop wait.there wait.waits⟩

/-- A stop goes on only if it waits. -/
theorem turnStop_cases (s : Duty Path) (token : Token) : s.step (.turnStop token) = s ∨
    ∃ call, s.calls[token]? = some call ∧ call.state = .waiting := by
  by_cases waits : ∃ call, s.calls[token]? = some call ∧ call.state = .waiting
  · exact .inr waits
  · exact .inl (step_turnStop_of_not fun call there idle => waits ⟨call, there, idle⟩)

/-- The watch behind a stop that has looked. -/
theorem watch_of_stopTurn {station : Station} {now : Instant} {call : StopCall}
    (turn : Station.StopTurn station now token call.began call.grace (s.station, call.state))
    (there : s.calls[token]? = some call) (performed : call.performed = true)
    (others : s.AllReturnedBut token) : s.Watch := by
  have returned : call.Returned → ∀ other ∈ s.calls, other.Returned := by
    intro ended other member
    obtain ⟨place, found⟩ := List.getElem?_of_mem member
    rcases others place other found with rfl | back
    · exact Option.some.inj (there.symm.trans found) ▸ ended
    · exact back
  obtain ⟨began, grace, _, state⟩ := call
  generalize reached : s.station = later at turn
  cases turn with
  | drained _ => exact .quiet (by rw [reached]; rfl) (returned ⟨none, rfl⟩)
  | late _ _ _ => exact .quiet (by rw [reached]; rfl) (returned ⟨_, rfl⟩)
  | @waits deadline underWay timed _ =>
      have signals : s.station.Signals .stopping [⟨token, deadline, false⟩] := by
        rw [reached]
        exact Station.signals_signalling _ _ _
      exact .waiting
        { alone := signals, there, waits := rfl, performed, timed, others
          told := .inr (by rw [reached]; exact underWay) }
  | beyondClock _ untimed =>
      have signals : s.station.Signals .stopping [] := by
        rw [reached]
        exact Station.signals_signalling _ _ _
      exact .stuck { alone := signals, there, broken := rfl, performed, untimed, others }

/-- A call among those that have begun, with one more at the end. -/
theorem call_of_append {calls : List StopCall} {last call : StopCall} {other : Token}
    (there : (calls ++ [last])[other]? = some call) :
    calls[other]? = some call ∨ other = calls.length ∧ call = last := by
  rcases Nat.lt_or_ge other calls.length with old | new
  · exact .inl (List.getElem?_append_left old ▸ there)
  · rw [List.getElem?_append_right new, List.getElem?_singleton] at there
    split at there
    · next place => exact .inr ⟨Nat.le_antisymm (Nat.le_of_sub_eq_zero place) new,
          (Option.some.inj there).symm⟩
    · nomatch there

theorem Sound.stop (sound : s.Sound) (grace : Duration) : (s.step (.stop grace)).Sound := by
  rcases sound.stop_cases grace with ⟨_, same⟩ | ⟨_, _, all, station, state, turn, changed⟩
  · rw [same]
    refine ⟨sound.counts, sound.signal, ?_⟩
    have known : ∀ {token : Token} {call : StopCall}, s.calls[token]? = some call →
        (s.calls ++ [⟨s.now, grace, false, .over none⟩])[token]? = some call := by
      intro token call there
      have bound : token < s.calls.length := (List.getElem?_eq_some_iff.mp there).1
      rw [List.getElem?_append_left bound, there]
    have returned : ∀ {token : Token}, s.AllReturnedBut token → ∀ (other : Token) call,
        (s.calls ++ [⟨s.now, grace, false, .over none⟩])[other]? = some call →
          other = token ∨ call.Returned := by
      intro token others other call there
      rcases call_of_append there with old | ⟨_, rfl⟩
      · exact others other call old
      · exact .inr ⟨none, rfl⟩
    cases sound.watch with
    | quiet idle all =>
        refine .quiet idle fun call member => ?_
        rcases List.mem_append.mp member with old | new
        · exact all call old
        · exact ⟨none, by rw [List.mem_singleton.mp new]⟩
    | waiting wait =>
        exact .waiting { wait with there := known wait.there, others := returned wait.others }
    | stuck off =>
        exact .stuck { off with there := known off.there, others := returned off.others }
  · rw [changed]
    refine ⟨turn.inFlight.trans sound.counts, by simp [turn.signalled], ?_⟩
    have there : (s.calls ++ [⟨s.now, grace, true, state⟩])[s.calls.length]? =
        some ⟨s.now, grace, true, state⟩ := List.getElem?_concat_length
    refine watch_of_stopTurn turn there rfl fun other call found => ?_
    rcases call_of_append found with old | ⟨here, _⟩
    · exact .inr (all call (List.mem_of_getElem? old))
    · exact .inl here

theorem Sound.turnStop (sound : s.Sound) (token : Token) : (s.step (.turnStop token)).Sound := by
  rcases s.turnStop_cases token with same | ⟨call, there, waits⟩
  · rwa [same]
  · obtain ⟨stop, rfl, wait⟩ := sound.watch.waitsAlone there waits
    obtain ⟨station, state, turn, changed⟩ := wait.turnStop
    rw [changed]
    refine ⟨turn.inFlight.trans sound.counts, by simp [turn.signalled], ?_⟩
    have bound : stop.token < s.calls.length := (List.getElem?_eq_some_iff.mp there).1
    have here : (s.calls.set stop.token { call with state })[stop.token]? =
        some { call with state } := List.getElem?_set_self bound
    refine watch_of_stopTurn turn here wait.performed fun other known found => ?_
    by_cases same : stop.token = other
    · exact .inl same.symm
    · exact wait.others other known (List.getElem?_set_ne same ▸ found)

/-- **Every event keeps a duty sound.** -/
theorem Sound.step (sound : s.Sound) (choice : Choice) : (s.step choice).Sound := by
  cases choice with
  | enter x => exact sound.enter x
  | handBack run handed scale => exact sound.advance run _
  | turn run byTimer => exact sound.advance run _
  | abandon run => exact sound.advance run _
  | start => exact sound.start
  | stop grace => exact sound.stop grace
  | turnStop token => exact sound.turnStop token
  | elapse instant => exact ⟨sound.counts, sound.signal, sound.watch.of_same rfl rfl rfl id⟩

theorem sound_before (handler : Handler Path) (choices : List Choice) (n : Nat) :
    ((create handler).before choices n).Sound :=
  before_induction (sound_create handler) (fun _ choice _ sound => sound.step choice) n

end Duty

end Mediation
