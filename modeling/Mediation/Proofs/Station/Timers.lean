import Mediation.Proofs.Coordinator.Live
import Mediation.Proofs.Station.Stops

/-!
# Timers of a handler at work

Guarded runs that wait to redeliver have a timer, and so has a stop that waits for them. In a prompt
run (`Duty.Prompt`) the clock stops at each of them, so nobody is found waiting behind the
millisecond at which the timer fires (`Duty.punctual_before`). While the signal is raised nobody
sleeps at all: the clock stands still until every delay is over.
-/

set_option autoImplicit false

namespace Mediation

variable {Path : Type}

namespace Stint

variable {handler : Handler Path} {signal : Bool} {now due : Instant} {scale : Scale}
  {stint : Stint Path} {handed x : Exchange}

/-- Behind a decision there is no delay but the one that begins. -/
theorem delay_of_decide {after : Exchange}
    (delays : (stint.decide handler signal now scale after).stand = .delay handed x due) :
    now ≤ due ∧ signal = false := by
  unfold decide at delays
  cases decided : Guard.afterRegion handler stint.entry after with
  | mk next event =>
      rw [decided] at delays
      cases next with
      | leave y => nomatch delays
      | follow y path => nomatch delays
      | redeliver y spacing =>
          cases signal with
          | true => nomatch delays
          | false =>
              cases zero : (spacing.time scale).isZero with
              | true => simp [zero, again] at delays
              | false =>
                  simp only [zero, Bool.false_eq_true, if_false, Stand.delay.injEq] at delays
                  exact ⟨delays.2.2 ▸ now.le_wakeUp _, rfl⟩

/-- Behind what was handed back there is no delay but the one it was in, and the one that its
decision begins. -/
theorem handBack_of_delay {result : Except Panic Exchange}
    (delays : (stint.handBack handler signal now scale result).stand = .delay handed x due) :
    stint.handBack handler signal now scale result = stint ∨
      ∃ after,
        stint.handBack handler signal now scale result =
          stint.decide handler signal now scale after := by
  unfold handBack at delays ⊢
  cases stand : stint.stand with
  | delay _ _ _ => exact .inl rfl
  | left _ => exact .inl rfl
  | region _ =>
      rw [stand] at delays
      cases result with
      | ok after => exact .inr ⟨after, rfl⟩
      | error panic => nomatch delays
  | path _ _ =>
      rw [stand] at delays
      cases result with
      | ok after => nomatch delays
      | error panic => nomatch delays

/-- A turn begins no delay. -/
theorem delay_of_turn {byTimer : Bool}
    (delays : (stint.turn signal now byTimer).stand = .delay handed x due) :
    stint.turn signal now byTimer = stint := by
  unfold turn at delays ⊢
  cases stand : stint.stand with
  | region _ => rfl
  | path _ _ => rfl
  | left _ => rfl
  | delay _ _ _ =>
      rw [stand] at delays
      simp only at delays ⊢
      split at delays
      · nomatch delays
      · split at delays
        · nomatch delays
        · next early lowered => rw [if_neg early, if_neg lowered]

end Stint

namespace Duty

variable {s : Duty Path} {choice : Choice} {choices : List Choice} {run : Nat}
  {stint : Stint Path} {handed x : Exchange} {due : Instant}

/-! ## Delays -/

/-- **Delays begin only while the signal is not raised.** What is found in a delay behind an event
was in it before, or begins to wait for an instant that is still to come. -/
theorem delayed_step (there : (s.step choice).stints[run]? = some stint)
    (delays : stint.stand = .delay handed x due) :
    s.stints[run]? = some stint ∨ s.now ≤ due ∧ s.station.signalled = false := by
  cases becomes_of_step there with
  | stays known => exact .inl known
  | enters _ => nomatch delays
  | handsBack known =>
      rcases Stint.handBack_of_delay delays with same | ⟨after, decides⟩
      · exact .inl (by rw [same, known])
      · exact .inr (Stint.delay_of_decide (decides ▸ delays))
  | turns known => exact .inl (by rw [Stint.delay_of_turn delays, known])
  | abandoned _ => nomatch delays

/-- Time passes by itself only. -/
theorem now_step (still : ∀ instant, choice ≠ .elapse instant) : (s.step choice).now = s.now := by
  cases choice with
  | enter x => rfl
  | handBack run handed scale => exact (s.advance_rest run _).2.1
  | turn run byTimer => exact (s.advance_rest run _).2.1
  | abandon run => exact (s.advance_rest run _).2.1
  | start =>
      simp only [step]
      split <;> rfl
  | stop grace => rfl
  | turnStop token =>
      simp only [step]
      split
      · rfl
      · split <;> rfl
  | elapse instant => exact absurd rfl (still instant)

/-! ## Deadlines -/

/-- A stop that is told keeps its deadline. -/
theorem deadline_leave {station : Station} {stop : StopWait}
    (member : stop ∈ station.leave.stops) :
    ∃ before ∈ station.stops, before.deadline = stop.deadline := by
  unfold Station.leave at member
  split at member
  · obtain ⟨before, there, rfl⟩ := List.mem_map.mp member
    exact ⟨before, there, rfl⟩
  · exact ⟨stop, member, rfl⟩

theorem deadline_advance (run : Nat) (change : Stint Path → Stint Path) {stop : StopWait}
    (member : stop ∈ (s.advance run change).station.stops) :
    ∃ before ∈ s.station.stops, before.deadline = stop.deadline := by
  rcases s.advance_eq run change with same | ⟨stint, _, _, changed⟩
  · exact ⟨stop, same ▸ member, rfl⟩
  · rw [changed] at member
    change stop ∈ Station.stops (if (change stint).isOver then _ else _) at member
    split at member
    · exact deadline_leave member
    · exact ⟨stop, member, rfl⟩

/-- A stop that waits behind an event waited before, or begins to wait for an instant that is still
to come. -/
theorem deadline_step (sound : s.Sound) {stop : StopWait}
    (member : stop ∈ (s.step choice).station.stops) :
    (∃ before ∈ s.station.stops, before.deadline = stop.deadline) ∨ s.now ≤ stop.deadline := by
  cases choice with
  | enter x => exact .inl ⟨stop, member, rfl⟩
  | handBack run handed scale => exact .inl (deadline_advance run _ member)
  | turn run byTimer => exact .inl (deadline_advance run _ member)
  | abandon run => exact .inl (deadline_advance run _ member)
  | start =>
      simp only [step] at member
      cases starts : s.station.start with
      | error _ =>
          rw [starts] at member
          exact .inl ⟨stop, member, rfl⟩
      | ok station =>
          obtain ⟨_, rfl⟩ := Station.start_eq_ok starts
          rw [starts] at member
          exact .inl ⟨stop, member, rfl⟩
  | stop grace =>
      rcases sound.stop_cases grace with ⟨_, same⟩ | ⟨_, _, _, station, state, turn, changed⟩
      · rw [same] at member
        exact .inl ⟨stop, member, rfl⟩
      · rw [changed] at member
        exact .inr (turn.le_deadline member)
  | turnStop token =>
      rcases s.turnStop_cases token with same | ⟨call, there, waits⟩
      · exact .inl ⟨stop, same ▸ member, rfl⟩
      · obtain ⟨waiting, rfl, wait⟩ := sound.watch.waitsAlone there waits
        obtain ⟨station, state, turn, changed⟩ := wait.turnStop
        rw [changed] at member
        exact .inr (turn.le_deadline member)
  | elapse instant => exact .inl ⟨stop, member, rfl⟩

/-! ## Prompt runs -/

/-- Nobody has missed a timer. -/
structure Punctual (s : Duty Path) : Prop where
  stops : ∀ stop ∈ s.station.stops, s.now ≤ Instant.tick stop.deadline
  delays : ∀ stint ∈ s.stints, ∀ handed x due, stint.stand = .delay handed x due →
    s.now ≤ Instant.tick due

theorem punctual_create (handler : Handler Path) : (create handler).Punctual where
  stops := by simp [create, Station.create]
  delays := by simp [create]

/-- **Nobody misses a timer** by an event, if time passes only while everybody rests. -/
theorem Punctual.step (punctual : s.Punctual) (sound : s.Sound)
    (rests : ∀ instant, choice = .elapse instant → s.Rests instant) : (s.step choice).Punctual := by
  by_cases elapses : ∃ instant, choice = .elapse instant
  · obtain ⟨instant, rfl⟩ := elapses
    have rests := rests instant rfl
    exact
      { stops := fun stop member =>
          Nat.max_le.mpr ⟨punctual.stops stop member, (rests.stops stop member).2⟩
        delays := fun stint member handed x due delays =>
          Nat.max_le.mpr ⟨punctual.delays stint member handed x due delays,
            (rests.runs stint member handed x due delays).2⟩ }
  · have still : (s.step choice).now = s.now := now_step fun instant same => elapses ⟨instant, same⟩
    refine ⟨fun stop member => ?_, fun stint member handed x due delays => ?_⟩
    · rw [still]
      rcases deadline_step sound member with ⟨before, there, same⟩ | later
      · exact same ▸ punctual.stops before there
      · exact Nat.le_trans later (Instant.le_tick _)
    · rw [still]
      obtain ⟨run, there⟩ := List.getElem?_of_mem member
      rcases delayed_step there delays with before | ⟨later, _⟩
      · exact punctual.delays stint (List.mem_of_getElem? before) handed x due delays
      · exact Nat.le_trans later (Instant.le_tick _)

theorem punctual_before (handler : Handler Path)
    (prompt : (create handler).Prompt choices) (n : Nat) :
    ((create handler).before choices n).Punctual :=
  before_induction (punctual_create handler)
    (fun n _ there punctual => punctual.step (sound_before handler choices n)
      fun instant elapses => prompt n instant (elapses ▸ there)) n

end Duty

end Mediation
