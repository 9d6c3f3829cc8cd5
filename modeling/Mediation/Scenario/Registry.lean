import Mediation.Handoff
import Mediation.Pinning
import Mediation.Registry

/-!
# Scripts for a registry

A script works on one registry under a clock that only moves when the script says so. Every request
is registered under a label; its suspension is watched by someone who reports the verdict, and the
holder, once the request is taken out, is kept under the label.
-/

set_option autoImplicit false

namespace Mediation.Scenario

abbrev Label := String

/-- What happens in the background of a registry script. -/
inductive RegistryEvent
  | verdict (verdict : Verdict)
  | waited (registered : Bool)

/-- One line of a registry script. -/
inductive RegistryCommand
  | register (label : Label) (id : String) (timeout : Duration) (x : Exchange)
  | rekey (source target : String)
  | resolve (id : String) (reply : Message)
  | remove (id : String)
  | sweep (now : Option Duration)
  | drain
  | contains (id : String)
  | wait (label : Label) (id : String) (most : Duration)
  | advance (time : Duration)
  | abandon (label : Label)
  | fire (label : Label) (synchronous : Bool)
  | abandoned (label : Label)
  | dropHolder (label : Label)

/-- What a line of a registry script answers. -/
inductive RegistryAnswer
  | nothing
  | registered (id : String) (deadline : Duration)
  | flag (value : Bool)
  | unmatched (reply : Message)
  | notHeld

/-- A holder as it was when a line took it. -/
structure Taken where
  label : Label
  holder : Holder
  /-- Whether its suspension was given up; nothing if its continuation had been used. -/
  abandoned : Option Bool

/-- The instant of a sweep: a time since the start of the clock, or the present. -/
def sweepTime (now : Instant) : Option Duration → Except Panic Instant
  | none => .ok now
  | some since =>
    match Instant.after? 0 since with
    | some instant => .ok instant
    | none => .error (.text Instant.overflowText)

/-- The state of a registry script. -/
structure RegistryState where
  now : Instant
  registry : Registry
  /-- The halves of every registration with its label, by ticket. -/
  handoffs : List (Label × Handoff)
  /-- The holders that are kept. -/
  holders : List (Label × Holder)
  /-- The labels of the waits, by token. -/
  waits : List Label
  /-- What happened during the line. -/
  events : List (Label × Instant × RegistryEvent)
  /-- The holders taken during the line, in the order of their ids. -/
  taken : List Taken

namespace RegistryState

def start : RegistryState :=
  { now := 0, registry := Registry.empty, handoffs := [], holders := [], waits := [], events := [],
    taken := [] }

/-- Changes the halves of a registration. -/
def changeHandoff (s : RegistryState) (ticket : Ticket) (change : Handoff → Handoff) :
    RegistryState :=
  { s with handoffs := s.handoffs.modify ticket fun (label, handoff) => (label, change handoff) }

def note (s : RegistryState) (label : Label) (event : RegistryEvent) : RegistryState :=
  { s with events := s.events ++ [(label, s.now, event)] }

def handoff (s : RegistryState) (ticket : Ticket) : Handoff :=
  (s.handoffs[ticket]?.map (·.2)).getD Handoff.fresh

/-- Drops the holder kept under a label. -/
def dropHolder (s : RegistryState) (label : Label) : RegistryState :=
  match s.holders.find? fun entry => entry.1 = label with
  | none => s
  | some (_, holder) =>
    { s with holders := s.holders.filter fun entry => entry.1 ≠ label }.changeHandoff
      holder.ticket Handoff.supersede

def labelOf (s : RegistryState) (ticket : Ticket) : Label :=
  (s.handoffs[ticket]?.map (·.1)).getD ""

/-- Keeps a holder under the label of its registration, in place of any other. -/
def keep (s : RegistryState) (holder : Holder) : RegistryState :=
  let label := s.labelOf holder.ticket
  let freed := s.dropHolder label
  { freed with holders := freed.holders ++ [(label, holder)] }

/-- A line has taken some holders. They are noted as they are, and then kept one after the other in
the order of their ids. -/
def keepAll (s : RegistryState) (holders : List Holder) : RegistryState :=
  let ordered := holders.mergeSort fun first second =>
    decide (first.correlationId ≤ second.correlationId)
  let taken : List Taken := ordered.map fun holder =>
    { label := s.labelOf holder.ticket, holder,
      abandoned := (s.handoff holder.ticket).abandoned? }
  ordered.foldl keep { s with taken }

/-- Takes over what a placement in the registry has done. -/
def adopt (s : RegistryState) (placement : Registry.Placement) : RegistryState :=
  let placed := { s with registry := placement.registry }
  match placement.displaced with
  | none => placed
  | some entry => placed.changeHandoff entry.ticket Handoff.supersede

/-! ## The background -/

def afterWait (s : RegistryState) (token : Token) :
    Registry × Registry.WaitState → RegistryState
  | (registry, .over registered) =>
    { s with registry }.note (s.waits.getD token "") (.waited registered)
  | (registry, _) => { s with registry }

/-- Lets the waits run that have something to do. -/
def runWaits (s : RegistryState) : RegistryState :=
  let tokens := s.registry.waits.map (·.token)
  tokens.foldl (fun s token => s.afterWait token (s.registry.continueWait s.now token)) s

/-- Lets the watcher of a registration look for the verdict. -/
def runWatcher (s : RegistryState) (ticket : Ticket) : RegistryState :=
  let (handoff, sight) := (s.handoff ticket).look
  match sight with
  | .collected verdict =>
    (s.changeHandoff ticket fun _ => handoff).note
      (s.labelOf ticket) (.verdict verdict)
  | _ => s

/-- Lets everyone in the background run. -/
def settle (s : RegistryState) : RegistryState :=
  (List.range s.handoffs.length).foldl runWatcher s.runWaits

def nextDue? (s : RegistryState) : Option Instant :=
  (s.registry.waits.map fun wait => Instant.tick wait.deadline).min?

/-- Lets time pass up to an instant; `stops` bounds the number of timers on the way. -/
def advanceTo (target : Instant) : Nat → RegistryState → RegistryState
  | 0, s => s
  | stops + 1, s =>
    match s.nextDue? with
    | some due =>
      if due ≤ target then advanceTo target stops { s with now := max s.now due }.settle
      else { s with now := target }
    | none => { s with now := target }

/-! ## Lines -/

/-- The label that a suspension was last given. -/
def ticketOf? (s : RegistryState) (label : Label) : Option Ticket :=
  ((List.range s.handoffs.length).filter fun ticket =>
    (s.handoffs[ticket]?.map (·.1)) = some label).getLast?

/-- Uses the continuation of a holder. A reply becomes the outbound message. -/
def fire (s : RegistryState) (label : Label) (synchronous : Bool) :
    RegistryState × RegistryAnswer :=
  match s.holders.find? fun entry => entry.1 = label with
  | none => (s, .notHeld)
  | some (_, holder) =>
    let x := match holder.reply with
      | some reply => { holder.exchange with outbound := some reply }
      | none => holder.exchange
    let (handoff, delivered) := (s.handoff holder.ticket).complete x synchronous
    let released := { s with holders := s.holders.filter fun entry => entry.1 ≠ label }
    (released.changeHandoff holder.ticket fun _ => handoff, .flag (delivered.getD false))

/-- Runs one line, without what follows in the background. -/
def apply (s : RegistryState) : RegistryCommand → Except Panic (RegistryState × RegistryAnswer)
  | .register label id timeout x =>
    let ticket := s.handoffs.length
    match s.registry.register? s.now id timeout x ticket with
    | none => .error (.text Instant.overflowText)
    | some placement =>
      let opened := { s with handoffs := s.handoffs ++ [(label, Handoff.fresh)] }
      .ok (opened.adopt placement, .registered id (Duration.ofNanos (s.now.plus timeout)))
  | .rekey source target =>
    let (placement, moved) := s.registry.rekey source target
    .ok (s.adopt placement, .flag moved)
  | .resolve id reply =>
    match s.registry.resolve id reply with
    | (registry, some holder) => .ok ({ s with registry }.keepAll [holder], .nothing)
    | (registry, none) => .ok ({ s with registry }, .unmatched reply)
  | .remove id =>
    match s.registry.remove id with
    | (registry, some holder) => .ok ({ s with registry }.keepAll [holder], .nothing)
    | (registry, none) => .ok ({ s with registry }, .nothing)
  | .sweep since =>
    match sweepTime s.now since with
    | .error panic => .error panic
    | .ok instant =>
      let (registry, holders) := s.registry.sweep instant
      .ok ({ s with registry }.keepAll holders, .nothing)
  | .drain =>
    let (registry, holders) := s.registry.drain
    .ok ({ s with registry }.keepAll holders, .nothing)
  | .contains id => .ok (s, .flag (s.registry.contains id))
  | .wait label id most =>
    let token := s.waits.length
    let named := { s with waits := s.waits ++ [label] }
    .ok (named.afterWait token (named.registry.beginWait named.now token id most), .nothing)
  | .advance time =>
    let target := Instant.tick (s.now.wakeUp time)
    .ok (advanceTo target (target - s.now + 1) s, .nothing)
  | .abandon label =>
    .ok (match s.ticketOf? label with
      | some ticket => s.changeHandoff ticket Handoff.abandon
      | none => s, .nothing)
  | .fire label synchronous => .ok (s.fire label synchronous)
  | .abandoned label =>
    match s.holders.find? fun entry => entry.1 = label with
    | none => .ok (s, .nothing)
    | some (_, holder) =>
      .ok (s, match (s.handoff holder.ticket).abandoned? with
        | some value => .flag value
        | none => .nothing)
  | .dropHolder label =>
    .ok (s.dropHolder label, .flag (s.holders.any fun entry => entry.1 = label))

/-- Runs one line and what follows in the background. -/
def step (s : RegistryState) (command : RegistryCommand) :
    Except Panic (RegistryState × RegistryAnswer) :=
  match { s with events := [], taken := [] }.apply command with
  | .ok (s, answer) => .ok (s.settle, answer)
  | .error panic => .error panic

end RegistryState

end Mediation.Scenario
