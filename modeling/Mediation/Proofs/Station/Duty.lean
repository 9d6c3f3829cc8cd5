import Mediation.Guard
import Mediation.Pinning
import Mediation.Proofs.Runs

/-!
# Handlers at work

Any number of guarded runs go on at one handler, side by side, and the handler is started and
stopped in between. A `Duty` has all of that: the station of the handler, its guarded runs
(`Stint`) and the calls of its stop. One event of a duty (`Choice`) is what somebody does between
two waits: a run enters, takes back what its region or a handled path hands back, goes on behind its
delay, or is given up by its caller; the handler is started, a stop begins or goes on, or time
passes. Events come in any order.

Regions and handled paths may hand anything back at any time. What becomes of it is decided by
`Guard.afterRegion`, `Guard.interrupt` and `Guard.afterPath`.
-/

set_option autoImplicit false

namespace Mediation

variable {Path : Type}

/-! ## Guarded runs -/

/-- What a guarded run met when its region or a handled path handed something back: if it was to run
its region again, what scaled its delay, whether it found the shutdown signal raised, and whether
the signal ended the delay. -/
structure Handing where
  handed : Except Panic Exchange
  scale : Option Scale
  signal : Bool
  interrupted : Bool

/-- Where a guarded run stands. -/
inductive Stand (Path : Type)
  /-- Its region runs. -/
  | region (x : Exchange)
  /-- It waits to run its region again, on what came of the exchange that was handed back. -/
  | delay (handed x : Exchange) (due : Instant)
  /-- A handled path runs. -/
  | path (path : Path) (x : Exchange)
  /-- It has left, without an outcome if its caller has given it up. -/
  | left (outcome : Option (Except Panic Exchange))

/-- A guarded run of a handler. -/
structure Stint (Path : Type) where
  entered : Exchange
  stand : Stand Path
  /-- How often its region has begun. -/
  begun : Nat
  /-- What was drawn last to scale a delay. -/
  scale : Option Scale
  /-- What it has told, the latest first. -/
  told : List Guard.Event
  /-- What it has met, the latest first. -/
  met : List Handing

namespace Stint

/-- A run enters: its region begins. -/
def enter (x : Exchange) : Stint Path :=
  { entered := x, stand := .region x, begun := 1, scale := none, told := [], met := [] }

/-- The attempt count with which it entered. -/
def entry (stint : Stint Path) : Attempts := stint.entered.redelivery.attempts

def isOver (stint : Stint Path) : Bool :=
  match stint.stand with
  | .left _ => true
  | _ => false

def tell (stint : Stint Path) (event : Option Guard.Event) : Stint Path :=
  { stint with told := event.toList ++ stint.told }

def draw (stint : Stint Path) (scale : Scale) : Stint Path := { stint with scale := some scale }

@[simp]
theorem entry_draw (stint : Stint Path) (scale : Scale) : (stint.draw scale).entry = stint.entry :=
  rfl

def meet (stint : Stint Path) (handing : Handing) : Stint Path :=
  { stint with met := handing :: stint.met }

/-- It takes back what is handed back, and does not look for the signal. -/
def take (stint : Stint Path) (handed : Except Panic Exchange) : Stint Path :=
  stint.meet { handed, scale := stint.scale, signal := false, interrupted := false }

def leave (stint : Stint Path) (outcome : Option (Except Panic Exchange)) : Stint Path :=
  { stint with stand := .left outcome }

/-- Its region begins again. -/
def again (stint : Stint Path) (x : Exchange) : Stint Path :=
  { stint with stand := .region x.withoutFailure, begun := stint.begun + 1 }

/-- Its region does not begin again, because the handler shuts down. -/
def breakOff (stint : Stint Path) (x : Exchange) : Stint Path :=
  let (x, event) := Guard.interrupt stint.entry x
  (stint.tell event).leave (some (.ok x))

/-- Its region has handed an exchange back, with the shutdown signal raised or not. Should it wait,
a scale is drawn. -/
def decide (handler : Handler Path) (signal : Bool) (now : Instant) (scale : Scale)
    (stint : Stint Path) (handed : Exchange) : Stint Path :=
  let (next, event) := Guard.afterRegion handler stint.entry handed
  let told := (stint.draw scale).tell event
  match next with
  | .leave x => (told.take (.ok handed)).leave (some (.ok x))
  | .follow x path => { told.take (.ok handed) with stand := .path path x }
  | .redeliver x spacing =>
    let time := spacing.time scale
    if signal then
      (told.meet { handed := .ok handed, scale := some scale, signal,
                   interrupted := false }).breakOff x
    else if time.isZero then (told.take (.ok handed)).again x
    else { told with stand := .delay handed x (now.wakeUp time) }

/-- A handled path has handed an exchange back. -/
def conclude (stint : Stint Path) (handed : Exchange) : Stint Path :=
  let (x, event) := Guard.afterPath stint.entry handed
  ((stint.tell event).take (.ok handed)).leave (some (.ok x))

/-- Its region or a handled path ends, in an exchange or in a panic. -/
def handBack (handler : Handler Path) (signal : Bool) (now : Instant) (scale : Scale)
    (stint : Stint Path) (handed : Except Panic Exchange) : Stint Path :=
  match stint.stand, handed with
  | .region _, .ok after => stint.decide handler signal now scale after
  | .path _ _, .ok after => stint.conclude after
  | .region _, .error panic | .path _ _, .error panic =>
    (stint.take handed).leave (some (.error panic))
  | _, _ => stint

/-- It looks whether its delay is over, by its timer or by the shutdown signal. If both is the case,
either may be what it goes by. -/
def turn (signal : Bool) (now : Instant) (byTimer : Bool) (stint : Stint Path) : Stint Path :=
  match stint.stand with
  | .delay handed x due =>
    if Instant.tick due ≤ now ∧ (signal = true → byTimer = true) then
      (stint.take (.ok handed)).again x
    else if signal then
      (stint.meet { handed := .ok handed, scale := stint.scale, signal := false,
                    interrupted := true }).breakOff x
    else stint
  | _ => stint

end Stint

/-! ## Duties -/

/-- A call of the stop of a handler. -/
structure StopCall where
  began : Instant
  grace : Duration
  /-- Whether it was this call that brought the handler to stopping. -/
  performed : Bool
  state : Station.StopState

/-- A handler at work. -/
structure Duty (Path : Type) where
  handler : Handler Path
  station : Station
  now : Instant
  /-- All guarded runs that have entered, in turn. -/
  stints : List (Stint Path)
  /-- All calls of the stop, in turn; each has its place as its token. -/
  calls : List StopCall

namespace Duty

/-- One event of a duty. -/
inductive Choice
  | enter (x : Exchange)
  | handBack (run : Nat) (handed : Except Panic Exchange) (scale : Scale)
  | turn (run : Nat) (byTimer : Bool)
  /-- The caller of a run gives it up. -/
  | abandon (run : Nat)
  | start
  | stop (grace : Duration)
  | turnStop (token : Token)
  | elapse (instant : Instant)

/-- A handler that was never started. -/
def create (handler : Handler Path) : Duty Path :=
  { handler, station := Station.create, now := 0, stints := [], calls := [] }

/-- The guarded runs under way. -/
def underWay (s : Duty Path) : Nat := s.stints.countP fun stint => !stint.isOver

/-- A guarded run goes on; when it leaves, the station is told. -/
def advance (s : Duty Path) (run : Nat) (change : Stint Path → Stint Path) : Duty Path :=
  match s.stints[run]? with
  | none => s
  | some stint =>
    if stint.isOver then s
    else
      let changed := change stint
      { s with
        stints := s.stints.set run changed
        station := if changed.isOver then s.station.leave else s.station }

/-- Whether a stop that begins now brings the handler to stopping. -/
def isStoppable (s : Duty Path) : Bool :=
  match s.station.lifecycle.phase with
  | .created | .starting | .started => true
  | .stopping | .stopped => false

def step (s : Duty Path) : Choice → Duty Path
  | .enter x =>
    { s with stints := s.stints ++ [Stint.enter x], station := s.station.enter }
  | .handBack run handed scale =>
    s.advance run fun stint => stint.handBack s.handler s.station.signalled s.now scale handed
  | .turn run byTimer => s.advance run fun stint => stint.turn s.station.signalled s.now byTimer
  | .abandon run => s.advance run fun stint => stint.leave none
  | .start =>
    match s.station.start with
    | .ok station => { s with station }
    | .error _ => s
  | .stop grace =>
    let (station, state) := s.station.beginStop s.now s.calls.length grace
    { s with
      station
      calls := s.calls ++ [{ began := s.now, grace, performed := s.isStoppable, state }] }
  | .turnStop token =>
    match s.calls[token]? with
    | none => s
    | some call =>
      match call.state with
      | .waiting =>
        let (station, state) := s.station.continueStop s.now token
        { s with station, calls := s.calls.set token { call with state } }
      | _ => s
  | .elapse instant => { s with now := max s.now instant }

def run (s : Duty Path) (choices : List Choice) : Duty Path := choices.foldl step s

/-- The duty before the event of this number. -/
def before (s : Duty Path) (choices : List Choice) (n : Nat) : Duty Path :=
  s.run (choices.take n)

/-- Nobody can go on, and no timer fires before an instant. -/
structure Rests (s : Duty Path) (instant : Instant) : Prop where
  runs : ∀ stint ∈ s.stints, ∀ handed x due, stint.stand = .delay handed x due →
    s.station.signalled = false ∧ instant ≤ Instant.tick due
  stops : ∀ stop ∈ s.station.stops, stop.woken = false ∧ instant ≤ Instant.tick stop.deadline

/-- The clock goes on only when nobody can, and stops at every timer. -/
def Prompt (s : Duty Path) (choices : List Choice) : Prop :=
  ∀ n instant, choices[n]? = some (.elapse instant) → (s.before choices n).Rests instant

/-! ## Events -/

variable {s : Duty Path} {choices : List Choice} {choice : Choice} {n : Nat}

theorem before_succ (there : choices[n]? = some choice) :
    s.before choices (n + 1) = (s.before choices n).step choice :=
  foldl_take_succ there

theorem before_succ_of_none (ended : choices[n]? = none) :
    s.before choices (n + 1) = s.before choices n :=
  foldl_take_succ_of_none ended

/-- What every event keeps holds before each of them. -/
theorem before_induction {holds : Duty Path → Prop} (begins : holds s)
    (keeps : ∀ n choice, choices[n]? = some choice → holds (s.before choices n) →
      holds ((s.before choices n).step choice)) (n : Nat) : holds (s.before choices n) :=
  foldl_take_induction begins keeps n

theorem step_stop (s : Duty Path) (grace : Duration) :
    s.step (.stop grace) =
      { s with
        station := (s.station.beginStop s.now s.calls.length grace).1
        calls := s.calls ++
          [⟨s.now, grace, s.isStoppable, (s.station.beginStop s.now s.calls.length grace).2⟩] } :=
  rfl

theorem step_turnStop {call : StopCall} {token : Token} (there : s.calls[token]? = some call)
    (waits : call.state = .waiting) :
    s.step (.turnStop token) =
      { s with
        station := (s.station.continueStop s.now token).1
        calls := s.calls.set token
          { call with state := (s.station.continueStop s.now token).2 } } := by
  simp only [step, there, waits]

/-- Nobody but a stop that waits goes on. -/
theorem step_turnStop_of_not {token : Token}
    (idle : ∀ call, s.calls[token]? = some call → call.state ≠ .waiting) :
    s.step (.turnStop token) = s := by
  simp only [step]
  split
  · rfl
  · next call there =>
      split
      · next waits => exact absurd waits (idle call there)
      · rfl

/-- What an event can do to one of the guarded runs. -/
theorem advance_eq (run : Nat) (change : Stint Path → Stint Path) :
    s.advance run change = s ∨ ∃ stint, s.stints[run]? = some stint ∧ stint.isOver = false ∧
      s.advance run change =
        { s with
          stints := s.stints.set run (change stint)
          station := if (change stint).isOver then s.station.leave else s.station } := by
  unfold advance
  cases there : s.stints[run]? with
  | none => exact .inl rfl
  | some stint =>
      cases ended : stint.isOver with
      | true => exact .inl (by simp [ended])
      | false => exact .inr ⟨stint, rfl, ended, by simp [ended]⟩

/-- A guarded run that is not over goes on as it does. -/
theorem getElem?_advance {run : Nat} {stint : Stint Path} (there : s.stints[run]? = some stint)
    (underWay : stint.isOver = false) (change : Stint Path → Stint Path) :
    (s.advance run change).stints[run]? = some (change stint) := by
  have bound : run < s.stints.length := (List.getElem?_eq_some_iff.mp there).1
  unfold advance
  simp only [there, underWay, Bool.false_eq_true, if_false]
  exact List.getElem?_set_self bound

/-- A guarded run that goes on leaves the rest of the duty as it is. -/
theorem advance_rest (s : Duty Path) (run : Nat) (change : Stint Path → Stint Path) :
    (s.advance run change).handler = s.handler ∧ (s.advance run change).now = s.now ∧
      (s.advance run change).calls = s.calls := by
  rcases s.advance_eq run change with same | ⟨stint, _, _, changed⟩
  · rw [same]
    exact ⟨rfl, rfl, rfl⟩
  · rw [changed]
    exact ⟨rfl, rfl, rfl⟩

theorem handler_step (s : Duty Path) (choice : Choice) : (s.step choice).handler = s.handler := by
  cases choice with
  | enter x => rfl
  | handBack run handed scale => exact (s.advance_rest run _).1
  | turn run byTimer => exact (s.advance_rest run _).1
  | abandon run => exact (s.advance_rest run _).1
  | start =>
      simp only [step]
      split <;> rfl
  | stop grace => rfl
  | turnStop token =>
      simp only [step]
      split
      · rfl
      · split <;> rfl
  | elapse instant => rfl

theorem handler_before (handler : Handler Path) (choices : List Choice) (n : Nat) :
    ((create handler).before choices n).handler = handler :=
  @before_induction Path (create handler) choices (fun s => s.handler = handler) rfl
    (fun _ choice _ before => (handler_step _ choice).trans before) n

/-- What becomes of the guarded run of this number by an event. -/
inductive Becomes (s : Duty Path) (run : Nat) : Choice → Stint Path → Prop
  | stays {choice : Choice} {stint : Stint Path} : s.stints[run]? = some stint →
      Becomes s run choice stint
  | enters {x : Exchange} : s.stints.length = run → Becomes s run (.enter x) (.enter x)
  | handsBack {stint : Stint Path} {handed : Except Panic Exchange} {scale : Scale} :
      s.stints[run]? = some stint →
        Becomes s run (.handBack run handed scale)
          (stint.handBack s.handler s.station.signalled s.now scale handed)
  | turns {stint : Stint Path} {byTimer : Bool} : s.stints[run]? = some stint →
      Becomes s run (.turn run byTimer) (stint.turn s.station.signalled s.now byTimer)
  | abandoned {stint : Stint Path} : s.stints[run]? = some stint →
      Becomes s run (.abandon run) (stint.leave none)

theorem becomes_advance {run other : Nat} {change : Stint Path → Stint Path}
    {stint : Stint Path} (there : (s.advance other change).stints[run]? = some stint) :
    s.stints[run]? = some stint ∨
      other = run ∧ ∃ before, s.stints[run]? = some before ∧ stint = change before := by
  rcases s.advance_eq other change with same | ⟨before, known, _, changed⟩
  · exact .inl (same ▸ there)
  · rw [changed] at there
    by_cases mine : other = run
    · subst mine
      have bound : other < s.stints.length := (List.getElem?_eq_some_iff.mp known).1
      have here := (List.getElem?_set_self bound).symm.trans there
      exact .inr ⟨rfl, before, known, (Option.some.inj here).symm⟩
    · exact .inl ((List.getElem?_set_ne mine).symm.trans there)

/-- **What an event can do to a guarded run.** -/
theorem becomes_of_step {run : Nat} {stint : Stint Path}
    (there : (s.step choice).stints[run]? = some stint) : s.Becomes run choice stint := by
  cases choice with
  | enter x =>
      change (s.stints ++ [Stint.enter x])[run]? = some stint at there
      rcases Nat.lt_or_ge run s.stints.length with old | new
      · exact .stays (List.getElem?_append_left old ▸ there)
      · rw [List.getElem?_append_right new, List.getElem?_singleton] at there
        split at there
        · next place =>
            cases there
            exact .enters (Nat.le_antisymm new (Nat.le_of_sub_eq_zero place))
        · nomatch there
  | handBack other handed scale =>
      rcases becomes_advance there with same | ⟨rfl, before, known, rfl⟩
      · exact .stays same
      · exact .handsBack known
  | turn other byTimer =>
      rcases becomes_advance there with same | ⟨rfl, before, known, rfl⟩
      · exact .stays same
      · exact .turns known
  | abandon other =>
      rcases becomes_advance there with same | ⟨rfl, before, known, rfl⟩
      · exact .stays same
      · exact .abandoned known
  | start =>
      refine .stays (Eq.trans ?_ there)
      simp only [step]
      split <;> rfl
  | stop grace => exact .stays there
  | turnStop token =>
      refine .stays (Eq.trans ?_ there)
      simp only [step]
      split
      · rfl
      · split <;> rfl
  | elapse instant => exact .stays there

/-- What holds of every guarded run that enters, and is kept by whatever becomes of a run, holds of
all guarded runs. -/
theorem stints_before {handler : Handler Path} {holds : Stint Path → Prop}
    (enters : ∀ x, holds (.enter x))
    (handsBack : ∀ stint signal now scale handed, holds stint →
      holds (stint.handBack handler signal now scale handed))
    (turns : ∀ stint signal now byTimer, holds stint → holds (stint.turn signal now byTimer))
    (abandoned : ∀ stint, holds stint → holds (stint.leave none)) (n : Nat) :
    ∀ stint ∈ ((create handler).before choices n).stints, holds stint := by
  induction n with
  | zero => simp [before, run, create]
  | succ n ih =>
      cases happens : choices[n]? with
      | none => rwa [before_succ_of_none happens]
      | some choice =>
          rw [before_succ happens]
          intro stint member
          obtain ⟨run, there⟩ := List.getElem?_of_mem member
          cases becomes_of_step there with
          | stays known => exact ih stint (List.mem_of_getElem? known)
          | enters _ => exact enters _
          | handsBack known =>
              rw [handler_before]
              exact handsBack _ _ _ _ _ (ih _ (List.mem_of_getElem? known))
          | turns known => exact turns _ _ _ _ (ih _ (List.mem_of_getElem? known))
          | abandoned known => exact abandoned _ (ih _ (List.mem_of_getElem? known))

end Duty

end Mediation
