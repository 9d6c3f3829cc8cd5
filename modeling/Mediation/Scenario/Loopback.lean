import Mediation.Transport

/-!
# Scripts for a loopback transport

A script uses a loopback transport without a coordinator. Replies on their way and messages that
arrive are events of the script.
-/

set_option autoImplicit false

namespace Mediation.Scenario

/-- One line of a loopback script. -/
inductive LoopbackCommand
  | listen
  | hasListener
  | send (id replyTo : String) (x : Exchange)
  | deliver (message : Message)
  | resolve
  | advance (time : Duration)
  | describe

/-- What a line of a loopback script answers. -/
inductive LoopbackAnswer
  | nothing
  | flag (value : Bool)
  | sent (answer : Except Failure (Option String))
  | address (answer : Except Failure String)
  | text (value : String)

/-- The state of a loopback script. -/
structure LoopbackState where
  now : Instant
  transport : Transport
  /-- The replies on their way. -/
  carried : List (Instant × Message)
  /-- What arrived during the line. -/
  received : List (Instant × Message)

namespace LoopbackState

def start (settings : Loopback) : LoopbackState :=
  { now := 0, transport := Transport.ofLine (.loopback settings), carried := [], received := [] }

/-- The replies arrive whose time has come. -/
def settle (s : LoopbackState) : LoopbackState :=
  let (due, later) := s.carried.partition fun entry => decide (Instant.tick entry.1 ≤ s.now)
  let ordered := due.mergeSort fun first second => decide (first.1 ≤ second.1)
  { s with
    carried := later
    received := s.received ++ ordered.map fun entry =>
      (max (Instant.tick entry.1) s.now, entry.2) }

def nextDue? (s : LoopbackState) : Option Instant :=
  (s.carried.map fun entry => Instant.tick entry.1).min?

/-- Lets time pass up to an instant; `stops` bounds the number of arrivals on the way. -/
def advanceTo (target : Instant) : Nat → LoopbackState → LoopbackState
  | 0, s => s
  | stops + 1, s =>
    match s.nextDue? with
    | some due =>
      if due ≤ target then advanceTo target stops { s with now := max s.now due }.settle
      else { s with now := target }
    | none => { s with now := target }

def advance (s : LoopbackState) (time : Duration) : LoopbackState :=
  let target := Instant.tick (s.now.wakeUp time)
  advanceTo target (target - s.now + 1) s

/-- Runs one line, without what follows in the background. -/
def apply (s : LoopbackState) : LoopbackCommand → LoopbackState × LoopbackAnswer
  | .listen => ({ s with transport := s.transport.listen }, .nothing)
  | .hasListener => (s, .flag s.transport.listening)
  | .send id replyTo x =>
    let dispatch := s.transport.send x.inbound replyTo id
    let carried := match dispatch.reply with
      | some (message, time) => s.carried ++ [(s.now.wakeUp time, message)]
      | none => s.carried
    ({ s with transport := dispatch.transport, carried }, .sent dispatch.answer)
  | .deliver message =>
    if s.transport.listening then
      ({ s with received := s.received ++ [(s.now, message)] }, .flag true)
    else (s, .flag false)
  | .resolve =>
    let (time, answer) := s.transport.resolution
    (s.advance time, .address answer)
  | .advance time => (s.advance time, .nothing)
  | .describe => (s, .text (s.transport.described?.getD ""))

/-- Runs one line and what follows in the background. -/
def step (s : LoopbackState) (command : LoopbackCommand) : LoopbackState × LoopbackAnswer :=
  let (s, answer) := { s with received := [] }.apply command
  (s.settle, answer)

end LoopbackState

end Mediation.Scenario
