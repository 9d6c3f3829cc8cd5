import Mediation.Proofs.Delivery.Chronicles
import Mediation.Proofs.Station.Timers

/-!
# How a stop ends redelivery

A stop raises the shutdown signal of its handler, and only a start lowers it again. In between no
guarded run gets to another delay, and none begins its region again unless it is behind a delay
that it was in when the stop came, and goes by the timer of that delay. Where it goes by the signal,
and where it comes to the decision only later, it leaves at once, with the attempt counted and the
failure remembered. Every other decision is the one it would have been anyway
(`Duty.refuses_behind_stop`).
-/

set_option autoImplicit false

namespace Mediation

variable {Path : Type}

/-- The exchange of a guarded run that leaves because its redelivery is refused: the failure that
was to be redelivered is remembered and the attempt is counted. -/
def Exchange.refused (handed : Exchange) (entry : Attempts) (failure : Failure) : Exchange :=
  { handed with
    failure := some (Guard.interruption handed (handed.redelivery.attempts.next.since entry))
    redelivery := { handed.redelivery with
      attempts := handed.redelivery.attempts.next
      lastFailure := some failure } }

namespace Stint

variable {handler : Handler Path} {signal : Bool} {now due : Instant} {scale : Scale}
  {stint : Stint Path} {handed x : Exchange} {failure : Failure}

/-- The number of the attempt that an exchange is redelivered as. -/
def attempt (stint : Stint Path) (handed : Exchange) : Attempts :=
  handed.redelivery.attempts.next.since stint.entry

/-- A failure that was handed back calls for redelivery. -/
def Redelivers (handler : Handler Path) (stint : Stint Path) (handed : Exchange)
    (failure : Failure) : Prop :=
  Retries handler (handed.redelivery.attempts.since stint.entry).toNat handed failure

/-- It has left because its redelivery was refused, and has told so last. -/
structure Refused (stint left : Stint Path) (handed : Exchange) (failure : Failure)
    (told : List Guard.Event) : Prop where
  outcome : left.stand = .left (some (.ok (handed.refused stint.entry failure)))
  begun : left.begun = stint.begun
  told : left.told = .interrupted (stint.attempt handed) :: told

/-- It waits to redeliver a failure. -/
structure Awaits (handler : Handler Path) (stint : Stint Path) (handed x : Exchange)
    (failure : Failure) : Prop where
  redelivers : stint.Redelivers handler handed failure
  counted : x = handed.recordAttempt failure
  told : ∃ spacing rest, stint.told = .redelivery failure (stint.attempt handed) spacing :: rest

theorem refused_breakOff (handing : Handing) (event : Option Guard.Event) :
    stint.Refused (((stint.tell event).meet handing).breakOff (handed.recordAttempt failure)) handed
      failure (event.toList ++ stint.told) :=
  ⟨rfl, rfl, rfl⟩

/-- A decision for redelivery is refused while the signal is raised. -/
theorem Redelivers.decide (redelivers : stint.Redelivers handler handed failure) :
    ∃ spacing, stint.Refused (stint.decide handler true now scale handed) handed failure
      (.redelivery failure (stint.attempt handed) spacing :: stint.told) := by
  have decided := afterRegion_retries redelivers
  simp only at decided
  unfold Stint.decide
  rw [decided]
  exact ⟨_, rfl, rfl, rfl⟩

/-- Any other decision does not depend on the signal. -/
theorem decide_of_not_redelivers (settles : ∀ failure, ¬ stint.Redelivers handler handed failure) :
    stint.decide handler signal now scale handed = stint.decide handler false now scale handed := by
  have turns := Guard.afterRegion_turns handler stint.entry handed
  unfold Stint.decide
  cases decided : Guard.afterRegion handler stint.entry handed with
  | mk next event =>
      rw [decided] at turns
      cases turns with
      | leave _ => rfl
      | follow _ _ _ _ => rfl
      | redeliver spacing retries => exact absurd retries (settles _)

/-- Whoever is in a delay waits to redeliver. -/
theorem awaits_decide {after : Exchange}
    (delays : (stint.decide handler signal now scale after).stand = .delay handed x due) :
    ∃ failure, (stint.decide handler signal now scale after).Awaits handler handed x failure := by
  have turns := Guard.afterRegion_turns handler stint.entry after
  unfold Stint.decide at delays ⊢
  cases decided : Guard.afterRegion handler stint.entry after with
  | mk next event =>
      rw [decided] at turns delays
      cases turns with
      | leave _ => nomatch delays
      | follow _ _ _ _ => nomatch delays
      | @redeliver failure spacing retries =>
          cases signal with
          | true => nomatch delays
          | false =>
              cases zero : (spacing.time scale).isZero with
              | true => simp [zero, again] at delays
              | false =>
                  simp only [zero, Bool.false_eq_true, if_false, Stand.delay.injEq] at delays ⊢
                  obtain ⟨rfl, rfl, _⟩ := delays
                  exact ⟨failure, retries, rfl, spacing, stint.told, rfl⟩

/-- If it is in a delay, it waits to redeliver. -/
def Grounded (handler : Handler Path) (stint : Stint Path) : Prop :=
  ∀ handed x due, stint.stand = .delay handed x due →
    ∃ failure, stint.Awaits handler handed x failure

theorem Grounded.handBack (grounded : stint.Grounded handler) (result : Except Panic Exchange) :
    (stint.handBack handler signal now scale result).Grounded handler := by
  intro handed x due delays
  rcases handBack_of_delay delays with same | ⟨after, decides⟩
  · rw [same] at delays ⊢
    exact grounded handed x due delays
  · rw [decides] at delays ⊢
    exact awaits_decide delays

theorem Grounded.turn (grounded : stint.Grounded handler) (byTimer : Bool) :
    (stint.turn signal now byTimer).Grounded handler := by
  intro handed x due delays
  have same := delay_of_turn delays
  rw [same] at delays ⊢
  exact grounded handed x due delays

/-- A turn behind a delay goes by the signal, unless it goes by its timer. -/
theorem Awaits.turn (awaits : stint.Awaits handler handed x failure)
    (delays : stint.stand = .delay handed x due) {byTimer : Bool}
    (untimed : byTimer = false ∨ now < Instant.tick due) :
    stint.Refused (stint.turn true now byTimer) handed failure stint.told := by
  have passed : ¬ (Instant.tick due ≤ now ∧ (True → byTimer = true)) := by
    rintro ⟨fired, timed⟩
    rcases untimed with signal | early
    · exact nomatch signal.symm.trans (timed trivial)
    · exact Nat.not_le_of_lt early fired
  unfold Stint.turn
  simp only [delays]
  rw [if_neg passed, if_pos trivial, awaits.counted]
  exact refused_breakOff _ none

/-! ### How often the region begins -/

theorem entered_decide :
    (stint.decide handler signal now scale handed).entered = stint.entered := by
  unfold Stint.decide
  cases Guard.afterRegion handler stint.entry handed with
  | mk next event =>
      cases next with
      | leave y => rfl
      | follow y path => rfl
      | redeliver y spacing =>
          cases signal with
          | true => rfl
          | false =>
              cases zero : (spacing.time scale).isZero <;>
                simp [zero, again, tell, take, meet, draw]

theorem begun_decide : (stint.decide handler true now scale handed).begun = stint.begun := by
  unfold Stint.decide
  cases Guard.afterRegion handler stint.entry handed with
  | mk next event => cases next <;> rfl

theorem entered_handBack {result : Except Panic Exchange} :
    (stint.handBack handler signal now scale result).entered = stint.entered := by
  unfold handBack
  cases stint.stand with
  | delay _ _ _ => rfl
  | left _ => rfl
  | region _ =>
      cases result with
      | ok after => exact entered_decide
      | error panic => rfl
  | path _ _ => cases result <;> rfl

/-- No region begins again with what is handed back while the signal is raised. -/
theorem begun_handBack {result : Except Panic Exchange} :
    (stint.handBack handler true now scale result).begun = stint.begun := by
  unfold handBack
  cases stint.stand with
  | delay _ _ _ => rfl
  | left _ => rfl
  | region _ =>
      cases result with
      | ok after => exact begun_decide
      | error panic => rfl
  | path _ _ => cases result <;> rfl

/-- A region begins again only behind a delay, and by the timer of it while the signal is raised. -/
theorem turn_cases (stint : Stint Path) (now : Instant) (byTimer : Bool) :
    (stint.turn true now byTimer).entered = stint.entered ∧
      ((stint.turn true now byTimer).begun = stint.begun ∨
        (stint.turn true now byTimer).begun = stint.begun + 1 ∧ byTimer = true ∧
          ∃ handed x due, stint.stand = .delay handed x due ∧ Instant.tick due ≤ now) := by
  unfold turn
  cases stand : stint.stand with
  | region _ => exact ⟨rfl, .inl rfl⟩
  | path _ _ => exact ⟨rfl, .inl rfl⟩
  | left _ => exact ⟨rfl, .inl rfl⟩
  | delay handed x due =>
      simp only
      split
      · next fired => exact ⟨rfl, .inr ⟨rfl, fired.2 trivial, handed, x, due, rfl, fired.1⟩⟩
      · exact ⟨rfl, .inl rfl⟩

end Stint

namespace Duty

variable {s : Duty Path} {handler : Handler Path} {choice : Choice} {choices : List Choice}
  {n m run : Nat} {stint : Stint Path} {grace : Duration}

theorem grounded_before (handler : Handler Path) (choices : List Choice) (n : Nat) :
    ∀ stint ∈ ((create handler).before choices n).stints, stint.Grounded handler := by
  apply stints_before
  · intro entered handed x due delays
    nomatch (show Stand.region _ = _ from delays)
  · intro stint signal now scale handed grounded
    exact grounded.handBack handed
  · intro stint signal now byTimer grounded
    exact grounded.turn byTimer
  · intro stint grounded handed x due delays
    nomatch (show Stand.left _ = _ from delays)

/-! ## The signal -/

/-- A stop brings the handler to stopping with an event, and no start succeeds from then on before
another one. -/
structure StaysDown (s : Duty Path) (choices : List Choice) (n m : Nat) : Prop where
  stops : ∃ grace, choices[n]? = some (.stop grace)
  raises : (s.before choices n).isStoppable = true
  later : n < m
  unstarted : ∀ k, n < k → k < m → choices[k]? = some .start →
    ∀ station, (s.before choices k).station.start ≠ .ok station

theorem signalled_stop (sound : s.Sound) (grace : Duration) :
    (s.step (.stop grace)).station.signalled = true := by
  rcases sound.stop_cases grace with ⟨refused, same⟩ | ⟨_, _, _, station, state, turn, changed⟩
  · rw [same]
    by_cases phase : s.station.lifecycle.phase = .stopping ∨ s.station.lifecycle.phase = .stopped
    · exact sound.signal.mpr phase
    · have stoppable := isStoppable_iff.mpr (not_or.mp phase)
      exact nomatch refused.symm.trans stoppable
  · rw [changed]
    exact turn.signalled.1

/-- Only a start lowers the signal. -/
theorem signalled_step (sound : s.Sound) (raised : s.station.signalled = true)
    (unstarted : choice = .start → ∀ station, s.station.start ≠ .ok station) :
    (s.step choice).station.signalled = true := by
  have runs : ∀ run change, (s.advance run change).station.signalled = true := by
    intro run change
    rcases s.advance_eq run change with same | ⟨stint, _, _, changed⟩
    · rwa [same]
    · rw [changed]
      change Station.signalled (if (change stint).isOver then _ else _) = true
      split
      · rw [Station.signalled, Station.lifecycle_leave]
        exact raised
      · exact raised
  cases choice with
  | enter x => exact raised
  | handBack run handed scale => exact runs run _
  | turn run byTimer => exact runs run _
  | abandon run => exact runs run _
  | start =>
      simp only [step]
      cases starts : s.station.start with
      | ok station => exact absurd starts (unstarted rfl station)
      | error refusal => exact raised
  | stop grace => exact signalled_stop sound grace
  | turnStop token =>
      rcases s.turnStop_cases token with same | ⟨call, there, waits⟩
      · rwa [same]
      · obtain ⟨stop, rfl, wait⟩ := sound.watch.waitsAlone there waits
        obtain ⟨station, state, turn, changed⟩ := wait.turnStop
        rw [changed]
        exact turn.signalled.1
  | elapse instant => exact raised

/-- What holds behind the stop and is kept by every event under the signal, holds as long as the
handler is not started. -/
theorem StaysDown.induction (handler : Handler Path)
    (down : (create handler).StaysDown choices n m) {holds : Nat → Prop} (begins : holds (n + 1))
    (keeps : ∀ k choice, n < k → choices[k]? = some choice →
      ((create handler).before choices k).station.signalled = true → holds k → holds (k + 1))
    (idles : ∀ k, n < k → choices[k]? = none → holds k → holds (k + 1)) :
    ((create handler).before choices m).station.signalled = true ∧ holds m := by
  obtain ⟨⟨grace, there⟩, _, later, unstarted⟩ := down
  induction m, later using Nat.le_induction with
  | base =>
      rw [before_succ there]
      exact ⟨signalled_stop (sound_before handler choices n) grace, begins⟩
  | succ m later ih =>
      obtain ⟨raised, held⟩ := ih fun k after before => unstarted k after (Nat.lt_succ_of_lt before)
      cases next : choices[m]? with
      | none =>
          rw [before_succ_of_none next]
          exact ⟨raised, idles m later next held⟩
      | some choice =>
          refine ⟨?_, keeps m choice later next raised held⟩
          rw [before_succ next]
          exact signalled_step (sound_before handler choices m) raised fun same =>
            unstarted m later (Nat.lt_succ_self m) (same ▸ next)

/-! ## Runs under the signal -/

theorem length_step (s : Duty Path) (choice : Choice) :
    s.stints.length ≤ (s.step choice).stints.length := by
  have runs : ∀ run change, s.stints.length ≤ (s.advance run change).stints.length := by
    intro run change
    rcases s.advance_eq run change with same | ⟨stint, _, _, changed⟩
    · exact Nat.le_of_eq (by rw [same])
    · rw [changed]
      exact Nat.le_of_eq List.length_set.symm
  cases choice with
  | enter x =>
      change s.stints.length ≤ (s.stints ++ [Stint.enter x]).length
      rw [List.length_append]
      exact Nat.le_add_right _ _
  | handBack run handed scale => exact runs run _
  | turn run byTimer => exact runs run _
  | abandon run => exact runs run _
  | start =>
      simp only [step]
      split <;> exact Nat.le_refl _
  | stop grace => exact Nat.le_refl _
  | turnStop token =>
      simp only [step]
      split
      · exact Nat.le_refl _
      · split <;> exact Nat.le_refl _
  | elapse instant => exact Nat.le_refl _

/-- A guarded run that was in a delay when the stop came has gone by its timer all the same, which
had fired by then. Where the clock stops at every timer, it was due at the very instant of the
stop. -/
def GoesByTimer (s : Duty Path) (choices : List Choice) (n m run : Nat) (old : Stint Path) : Prop :=
  ∃ handed x due k, old.stand = .delay handed x due ∧ n < k ∧ k < m ∧
    choices[k]? = some (.turn run true) ∧ Instant.tick due ≤ (s.before choices k).now ∧
    (s.Prompt choices → Instant.tick due = (s.before choices n).now)

/-- What has become, before the event `m`, of the guarded run that was `old` when the stop came with
the event `n`, or entered as `old` since then. -/
structure Since (s : Duty Path) (choices : List Choice) (n m run : Nat)
    (old stint : Stint Path) : Prop where
  origin : (s.before choices n).stints[run]? = some old ∨
    (s.before choices n).stints[run]? = none ∧ ∃ x, old = .enter x
  entered : stint.entered = old.entered
  /-- No delay has begun. -/
  delays : ∀ handed x due, stint.stand = .delay handed x due → stint = old
  /-- Its region has not begun again, unless the run goes by its timer. -/
  begun : stint.begun = old.begun ∨
    stint.begun = old.begun + 1 ∧ s.GoesByTimer choices n m run old

/-- What has become of everybody. -/
structure Settled (s : Duty Path) (choices : List Choice) (n m : Nat) : Prop where
  length : (s.before choices n).stints.length ≤ (s.before choices m).stints.length
  runs : ∀ run stint, (s.before choices m).stints[run]? = some stint →
    ∃ old, s.Since choices n m run old stint
  /-- If the clock goes on only when nobody can, it does not until nobody is in a delay any more. -/
  clock : s.Prompt choices → ∀ stint ∈ (s.before choices m).stints, ∀ handed x due,
    stint.stand = .delay handed x due → (s.before choices m).now = (s.before choices n).now

theorem GoesByTimer.later {old : Stint Path} (goes : s.GoesByTimer choices n m run old) :
    s.GoesByTimer choices n (m + 1) run old := by
  obtain ⟨handed, x, due, k, stand, after, before, there, fired, prompt⟩ := goes
  exact ⟨handed, x, due, k, stand, after, Nat.lt_succ_of_lt before, there, fired, prompt⟩

theorem Since.later {old : Stint Path} (since : s.Since choices n m run old stint) :
    s.Since choices n (m + 1) run old stint :=
  { since with begun := since.begun.imp id fun ⟨again, goes⟩ => ⟨again, goes.later⟩ }

/-- What has come of a run without its region beginning again. -/
theorem Since.of_begun {old later : Stint Path} (since : s.Since choices n m run old stint)
    (entered : later.entered = stint.entered) (begun : later.begun = stint.begun)
    (delays : ∀ handed x due, later.stand = .delay handed x due → later = stint) :
    s.Since choices n (m + 1) run old later where
  origin := since.origin
  entered := entered.trans since.entered
  delays handed x due stand := by
    have same := delays handed x due stand
    subst same
    exact since.delays handed x due stand
  begun := by
    rw [begun]
    exact since.later.begun

theorem settled_stop (there : choices[n]? = some (.stop grace)) : s.Settled choices n (n + 1) := by
  have stints : (s.before choices (n + 1)).stints = (s.before choices n).stints := by
    rw [before_succ there]
    rfl
  have now : (s.before choices (n + 1)).now = (s.before choices n).now := by
    rw [before_succ there]
    rfl
  refine ⟨Nat.le_of_eq (by rw [stints]), ?_, fun _ _ _ _ _ _ _ => now⟩
  intro run stint known
  rw [stints] at known
  exact ⟨stint, .inl known, rfl, fun _ _ _ _ => rfl, .inl rfl⟩

/-- A delay behind an event under the signal was there before, in the same run. -/
theorem delayed_under_signal (raised : s.station.signalled = true)
    (there : (s.step choice).stints[run]? = some stint)
    (delays : ∃ handed x due, stint.stand = .delay handed x due) :
    s.stints[run]? = some stint := by
  obtain ⟨handed, x, due, stand⟩ := delays
  rcases delayed_step there stand with known | ⟨_, lowered⟩
  · exact known
  · exact nomatch raised.symm.trans lowered

theorem Settled.runs_step {handler : Handler Path}
    (settled : (create handler).Settled choices n m) (later : n < m)
    (there : choices[m]? = some choice)
    (raised : ((create handler).before choices m).station.signalled = true) {run : Nat}
    {stint : Stint Path}
    (known : ((create handler).before choices (m + 1)).stints[run]? = some stint) :
    ∃ old, (create handler).Since choices n (m + 1) run old stint := by
  rw [before_succ there] at known
  have delays : ∀ {before : Stint Path},
      ((create handler).before choices m).stints[run]? = some before →
        ∀ handed x due, stint.stand = .delay handed x due → stint = before := by
    intro before same handed x due stand
    have still := delayed_under_signal raised known ⟨handed, x, due, stand⟩
    exact Option.some.inj (still.symm.trans same)
  cases becomes_of_step known with
  | stays same =>
      obtain ⟨old, since⟩ := settled.runs run stint same
      exact ⟨old, since.later⟩
  | enters place =>
      have fresh : ((create handler).before choices n).stints[run]? = none := by
        rw [List.getElem?_eq_none_iff, ← place]
        exact settled.length
      exact ⟨_, .inr ⟨fresh, _, rfl⟩, rfl, fun _ _ _ _ => rfl, .inl rfl⟩
  | @handsBack before handed scale same =>
      rw [raised] at delays ⊢
      obtain ⟨old, since⟩ := settled.runs run before same
      exact ⟨old, since.of_begun Stint.entered_handBack Stint.begun_handBack (delays same)⟩
  | @turns before byTimer same =>
      rw [raised] at delays ⊢
      obtain ⟨old, since⟩ := settled.runs run before same
      obtain ⟨entered, begun⟩ :=
        before.turn_cases ((create handler).before choices m).now byTimer
      rcases begun with begun | ⟨again, rfl, handed, x, due, stand, fired⟩
      · exact ⟨old, since.of_begun entered begun (delays same)⟩
      · obtain rfl := since.delays handed x due stand
        refine ⟨before, since.origin, entered, delays same, .inr ⟨again, ?_⟩⟩
        refine ⟨handed, x, due, m, stand, later, Nat.lt_succ_self m, there, fired, fun prompt => ?_⟩
        have now := settled.clock prompt before (List.mem_of_getElem? same) handed x due stand
        rcases since.origin with known | ⟨_, x, rfl⟩
        · have early := (punctual_before handler prompt n).delays before
            (List.mem_of_getElem? known) handed x due stand
          exact Nat.le_antisymm (now ▸ fired) early
        · nomatch (show Stand.region _ = _ from stand)
  | @abandoned before same =>
      obtain ⟨old, since⟩ := settled.runs run before same
      exact ⟨old, since.of_begun rfl rfl (delays same)⟩

theorem Settled.clock_step (settled : s.Settled choices n m) (there : choices[m]? = some choice)
    (raised : (s.before choices m).station.signalled = true) (prompt : s.Prompt choices) :
    ∀ stint ∈ (s.before choices (m + 1)).stints, ∀ handed x due,
      stint.stand = .delay handed x due →
        (s.before choices (m + 1)).now = (s.before choices n).now := by
  intro stint member handed x due stand
  obtain ⟨run, known⟩ := List.getElem?_of_mem member
  rw [before_succ there] at known ⊢
  have same := delayed_under_signal raised known ⟨handed, x, due, stand⟩
  have waited := settled.clock prompt stint (List.mem_of_getElem? same) handed x due stand
  by_cases elapses : ∃ instant, choice = .elapse instant
  · obtain ⟨instant, rfl⟩ := elapses
    have lowered := ((prompt m instant there).runs stint (List.mem_of_getElem? same) handed x due
      stand).1
    exact nomatch raised.symm.trans lowered
  · rw [now_step fun instant same => elapses ⟨instant, same⟩]
    exact waited

theorem StaysDown.settled (handler : Handler Path)
    (down : (create handler).StaysDown choices n m) :
    ((create handler).before choices m).station.signalled = true ∧
      (create handler).Settled choices n m := by
  obtain ⟨grace, there⟩ := down.stops
  apply down.induction handler (settled_stop there)
  · intro k choice later there raised settled
    refine ⟨?_, fun run stint known => settled.runs_step later there raised known,
      settled.clock_step there raised⟩
    rw [before_succ there]
    exact Nat.le_trans settled.length (length_step _ choice)
  · intro k _ ended settled
    have same := before_succ_of_none (s := create handler) ended
    refine ⟨same ▸ settled.length, ?_, ?_⟩
    · intro run stint known
      obtain ⟨old, since⟩ := settled.runs run stint (same ▸ known)
      exact ⟨old, since.later⟩
    · rw [same]
      exact settled.clock

/-! ## Refusals -/

/-- How a handler that was stopped with the event `n` meets redelivery in the event `m`. -/
structure Refuses (handler : Handler Path) (s : Duty Path) (choices : List Choice) (n m : Nat) :
    Prop where
  signalled : (s.before choices m).station.signalled = true
  /-- No region has begun again since then, but for those whose timer was due already. -/
  settled : s.Settled choices n m
  /-- A run whose region hands an exchange back leaves at once if this calls for redelivery, and
  otherwise decides as if there were no stop. -/
  decides : ∀ run handed scale stint x, choices[m]? = some (.handBack run (.ok handed) scale) →
    (s.before choices m).stints[run]? = some stint → stint.stand = .region x →
      ∃ left, (s.before choices (m + 1)).stints[run]? = some left ∧
        ((∃ failure spacing, stint.Redelivers handler handed failure ∧
            stint.Refused left handed failure
              (.redelivery failure (stint.attempt handed) spacing :: stint.told)) ∨
          (∀ failure, ¬ stint.Redelivers handler handed failure) ∧
            left = stint.decide handler false (s.before choices m).now scale handed)
  /-- A run that is in a delay leaves when it looks, unless it goes by its timer. In a prompt run it
  does so only if that was due at the instant of the stop. -/
  wakes : ∀ run byTimer stint handed x due, choices[m]? = some (.turn run byTimer) →
    (s.before choices m).stints[run]? = some stint → stint.stand = .delay handed x due →
      ∃ failure, stint.Awaits handler handed x failure ∧
        (byTimer = false ∨ (s.before choices m).now < Instant.tick due ∨
            s.Prompt choices ∧ Instant.tick due ≠ (s.before choices n).now →
          ∃ left, (s.before choices (m + 1)).stints[run]? = some left ∧
            stint.Refused left handed failure stint.told)

/-- In a prompt run whose timer is not due when the stop comes, the timer stays ahead. -/
theorem Settled.lt_tick {handler : Handler Path} (settled : (create handler).Settled choices n m)
    (prompt : (create handler).Prompt choices) {run : Nat} {stint : Stint Path}
    (there : ((create handler).before choices m).stints[run]? = some stint) {handed x : Exchange}
    {due : Instant} (stand : stint.stand = .delay handed x due)
    (later : Instant.tick due ≠ ((create handler).before choices n).now) :
    ((create handler).before choices m).now < Instant.tick due := by
  have member := List.mem_of_getElem? there
  have early := (punctual_before handler prompt m).delays stint member handed x due stand
  rw [settled.clock prompt stint member handed x due stand] at early ⊢
  exact Nat.lt_of_le_of_ne early fun same => later same.symm

/-- **A handler that is stopped redelivers nothing.** From the stop on, and until the handler is
started again, no guarded run begins its region again, at whatever stage the stop has found it, and
however many there are. Who is in a delay, or comes to a decision for redelivery, leaves with the
attempt counted and the failure remembered; every other decision is what it would have been. -/
theorem refuses_behind_stop (handler : Handler Path) (choices : List Choice) (n m : Nat)
    (down : (create handler).StaysDown choices n m) :
    Refuses handler (create handler) choices n m := by
  obtain ⟨raised, settled⟩ := down.settled handler
  have same : ((create handler).before choices m).handler = handler :=
    handler_before handler choices m
  refine ⟨raised, settled, ?_, ?_⟩
  · intro run handed scale stint x there known stand
    have underWay : stint.isOver = false := by
      rw [Stint.isOver, stand]
    have goesOn := getElem?_advance known underWay fun stint =>
      stint.handBack handler true ((create handler).before choices m).now scale (.ok handed)
    rw [before_succ there, Duty.step, same, raised]
    refine ⟨_, goesOn, ?_⟩
    have decides : ∀ now, stint.handBack handler true now scale (.ok handed) =
        stint.decide handler true now scale handed := by
      intro now
      simp only [Stint.handBack, stand]
    rw [decides]
    by_cases redelivers : ∃ failure, stint.Redelivers handler handed failure
    · obtain ⟨failure, redelivers⟩ := redelivers
      obtain ⟨spacing, refused⟩ := redelivers.decide
      exact .inl ⟨failure, spacing, redelivers, refused⟩
    · have settles : ∀ failure, ¬ stint.Redelivers handler handed failure :=
        fun failure here => redelivers ⟨failure, here⟩
      exact .inr ⟨settles, Stint.decide_of_not_redelivers settles⟩
  · intro run byTimer stint handed x due there known stand
    obtain ⟨failure, awaits⟩ := grounded_before handler choices m stint
      (List.mem_of_getElem? known) handed x due stand
    refine ⟨failure, awaits, fun untimed => ?_⟩
    have underWay : stint.isOver = false := by
      rw [Stint.isOver, stand]
    have goesOn := getElem?_advance known underWay fun stint =>
      stint.turn true ((create handler).before choices m).now byTimer
    rw [before_succ there, Duty.step, raised]
    refine ⟨_, goesOn, awaits.turn stand ?_⟩
    rcases untimed with bySignal | early | ⟨prompt, later⟩
    · exact .inl bySignal
    · exact .inr early
    · exact .inr (settled.lt_tick prompt known stand later)

/-- A handler that redelivers once, a second later. -/
def redelivering : Handler Unit :=
  { id := 0, policy := { Policy.standard with maxRedeliveries := 1 }, rules := [] }

/-- What the region of a run hands back that fails. -/
def failing : Exchange := Exchange.withFailure default (.step "io" "down")

/-- A run that waits for a second to redeliver it. -/
def asleep : Stint Unit :=
  { entered := default
    stand := .delay failing (failing.recordAttempt (.step "io" "down"))
      (Instant.wakeUp 0 (Duration.ofSeconds 1))
    begun := 1
    scale := some default
    told := [.redelivery (.step "io" "down") 1 (redelivering.policy.spacing 1)]
    met := [] }

/-- The region of a run fails, and the handler is stopped before it is redelivered. -/
def stoppedAsleep : List Choice :=
  [.enter default, .handBack 0 (.ok failing) default, .stop Duration.zero, .turn 0 true]

/-- A run that waits leaves when the handler is stopped, although it would go by its timer. -/
theorem refuses_behind_stop_asleep :
    (create redelivering).StaysDown stoppedAsleep 2 3 ∧
      ((create redelivering).before stoppedAsleep 3).stints = [asleep] ∧
        ∃ left, ((create redelivering).before stoppedAsleep 4).stints[0]? = some left ∧
          left.begun = 1 ∧
            left.stand = .left (some (.ok (failing.refused 0 (.step "io" "down")))) := by
  have down : (create redelivering).StaysDown stoppedAsleep 2 3 :=
    ⟨⟨Duration.zero, rfl⟩, by decide +kernel, by decide, fun k after before => by omega⟩
  have waits : ((create redelivering).before stoppedAsleep 3).stints = [asleep] := rfl
  have refuses := refuses_behind_stop redelivering stoppedAsleep 2 3 down
  have there : ((create redelivering).before stoppedAsleep 3).stints[0]? = some asleep := by
    rw [waits]
    rfl
  obtain ⟨failure, awaits, leaves⟩ := refuses.wakes 0 true asleep _ _ _ rfl there rfl
  obtain rfl : Failure.step "io" "down" = failure := Option.some.inj awaits.redelivers.failed
  have early : ((create redelivering).before stoppedAsleep 3).now <
      Instant.tick (Instant.wakeUp 0 (Duration.ofSeconds 1)) := by
    decide +kernel
  obtain ⟨left, here, refused⟩ := leaves (.inr (.inl early))
  exact ⟨down, waits, left, here, refused.begun, refused.outcome⟩

end Duty

end Mediation
