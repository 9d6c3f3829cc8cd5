import Mediation.Proofs.Coordinator.Books

/-!
# How a suspension ends

What an event of a run does to the registrations is its deed (`Coordinator.deed`): it brings a
reply, sweeps, stops, registers a request or moves one. `Coordinator.Ends` says which suspensions a
deed can end, and how: with the reply or its fault, with a timeout, with a shutdown, or superseded.
A deed ends a suspension in at most one way (`Ends.unique`).
-/

set_option autoImplicit false

namespace Mediation

/-! ## Endings -/

/-- How a suspension ends. -/
inductive Ending
  /-- With a reply. -/
  | reply (message : Message)
  /-- With the fault that a reply reports. -/
  | fault (text : String)
  /-- With a timeout, under the id the request was registered with first. -/
  | timeout (id : String)
  /-- With a shutdown; whether the request was refused at once. -/
  | shutdown (reason : String) (synchronous : Bool)
  /-- Its continuation was given up. -/
  | superseded

/-- What there is to collect for a request when its suspension ends. -/
def Ending.verdict (request : Exchange × Duration) : Ending → Verdict
  | reply message => .resumed { request.1 with outbound := some message } false
  | fault text => .resumed (request.1.withFailure (.remote text)) false
  | timeout id => .resumed (request.1.withFailure (.timeout id request.2)) false
  | shutdown reason synchronous => .resumed (request.1.withFailure (.shutdown reason)) synchronous
  | superseded => .superseded

/-- A reply under the id that a request was registered with first. -/
def Pending.restore (entry : Pending) (reply : Message) : Message :=
  match entry.firstId with
  | some first => reply.withHeader Message.correlationHeader first
  | none => reply

/-- The id does not touch the fault. -/
theorem Pending.fault_restore (entry : Pending) (reply : Message) :
    (entry.restore reply).header? Message.faultHeader = reply.header? Message.faultHeader := by
  unfold restore
  split
  · exact Dictionary.find?_insert_of_ne _ (by decide) _
  · rfl

/-! ## Deeds -/

/-- A request that is to be registered. -/
structure Enrolment where
  exchange : Exchange
  id : String
  timeout : Duration
  /-- The id that the transport has assigned to it. -/
  assigned : Option String

/-- What an event does to the registrations. -/
inductive Deed
  /-- It brings a reply. -/
  | answer (message : Message)
  /-- It sweeps. -/
  | sweep
  /-- It is a turn of a stop that raises the signal, or has raised it and waits for others. -/
  | stop
  /-- It registers a request. -/
  | enrol (enrolment : Enrolment)
  /-- It moves a request to another id. -/
  | rekey (source target : String)
  /-- It leaves them alone. -/
  | other

namespace Coordinator

/-- The deed of a task's turn. -/
def jobDeed (c : Coordinator) : Job → Deed
  | .request x timeout _ => match c.replyAddress with
    | none => .other
    | some address =>
      let (named, id) := c.provisionalId x
      match (named.transport.send x.inbound address id).answer with
      | .ok assigned => .enrol { exchange := x, id, timeout, assigned }
      | .error _ => .other
  | .register x id timeout => .enrol { exchange := x, id, timeout, assigned := none }
  | .sent x id timeout (.ok assigned) => .enrol { exchange := x, id, timeout, assigned }
  | .reply message | .deliver message | .carried message _ | .early message _ _ => .answer message
  | .sweep (some _) => .sweep
  | .stop => if c.lifecycle.runAllowed then .stop else .other
  | .join _ _ => .stop
  | .sent _ _ _ (.error _) | .suspended _ | .watch _ | .query _ | .sweep none | .resolve _ => .other

/-- The deed of an event. -/
def deed (c : Coordinator) : Choice → Deed
  | .turn task => match c.job? task with
    | some job => c.jobDeed job
    | none => .other
  | .register x id timeout => .enrol { exchange := x, id, timeout, assigned := none }
  | .rekey source target => .rekey source target
  | .spawn _ | .start | .publish _ | .elapse _ => .other

/-- The registration that a deed makes. A request that is refused counts too; there is none if the
clock cannot hold the deadline. -/
def registers? (c : Coordinator) : Deed → Option (Exchange × Duration)
  | .enrol enrolment =>
    if !c.lifecycle.runAllowed || (c.now.after? enrolment.timeout).isSome then
      some (enrolment.exchange, enrolment.timeout)
    else none
  | _ => none

/-- **Which suspensions a deed ends, and how.** -/
inductive Ends (c : Coordinator) : Deed → Ticket → Ending → Prop
  | replied {message : Message} {id : String} {entry : Pending} :
      message.correlationId? = some id → c.registry.find? id = some entry →
      (c.config.transferFaults = true → message.header? Message.faultHeader = none) →
        Ends c (.answer message) entry.ticket (.reply (entry.restore message))
  | faulted {message : Message} {id text : String} {entry : Pending} :
      message.correlationId? = some id → c.registry.find? id = some entry →
      c.config.transferFaults = true → message.header? Message.faultHeader = some text →
        Ends c (.answer message) entry.ticket (.fault text)
  | timedOut {entry : Pending} :
      entry ∈ c.registry.entries → entry.deadline ≤ c.now →
        Ends c .sweep entry.ticket (.timeout (entry.firstId.getD entry.correlationId))
  | stopped {entry : Pending} :
      entry ∈ c.registry.entries →
        Ends c .stop entry.ticket (.shutdown ("reply coordinator stopped while awaiting " ++
          "correlation id \x27" ++ entry.correlationId ++ "\x27") false)
  | refused {enrolment : Enrolment} :
      c.lifecycle.runAllowed = false →
        Ends c (.enrol enrolment) c.handoffs.length
          (.shutdown ("reply coordinator is " ++ c.lifecycle.phase.name) true)
  | displaced {enrolment : Enrolment} {entry : Pending} :
      c.lifecycle.runAllowed = true → c.registry.find? enrolment.id = some entry →
        Ends c (.enrol enrolment) entry.ticket .superseded
  | displacedByAssigned {enrolment : Enrolment} {target : String} {entry : Pending} :
      enrolment.assigned = some target → enrolment.id ≠ target →
      c.registry.find? target = some entry →
        Ends c (.enrol enrolment) entry.ticket .superseded
  | displacedByRekey {source target : String} {entry : Pending} :
      (c.registry.find? source).isSome → source ≠ target →
      c.registry.find? target = some entry →
        Ends c (.rekey source target) entry.ticket .superseded

variable {c d : Coordinator} {deed : Deed} {ticket : Ticket} {first second : Ending}
  {registered : List (Exchange × Duration)} {hand : List Pending}

/-- A request in the registry was registered before. -/
theorem Sound.ticket_lt (sound : c.Sound registered hand) {entry : Pending}
    (member : entry ∈ c.registry.entries) : entry.ticket < c.handoffs.length := by
  have known := (sound.agrees (List.mem_append_right hand member)).2
  exact (List.getElem?_eq_some_iff.mp known).1

/-- In sound books a request in the registry is known by its ticket. -/
theorem Sound.entry_eq (sound : c.Sound registered hand) {entry other : Pending}
    (member : entry ∈ c.registry.entries) (inside : other ∈ c.registry.entries)
    (same : entry.ticket = other.ticket) : entry = other :=
  sound.eq_of_ticket (List.mem_append_right hand member) (List.mem_append_right hand inside) same

/-- A refusal concerns no request in the registry. -/
theorem Sound.not_refused (sound : c.Sound registered hand) {id : String} {entry : Pending}
    (found : c.registry.find? id = some entry) : entry.ticket ≠ c.handoffs.length :=
  Nat.ne_of_lt (sound.ticket_lt (Registry.mem_of_find? found))

/-- **A deed ends a suspension in at most one way.** -/
theorem Ends.unique (sound : c.Sound registered hand) (ends : Ends c deed ticket first)
    (other : Ends c deed ticket second) : first = second := by
  generalize same : ticket = again at other
  cases ends with
  | replied known found clean =>
      cases other with
      | replied knownToo foundToo _ =>
          rw [known, Option.some_inj] at knownToo
          rw [← knownToo, found, Option.some_inj] at foundToo
          rw [foundToo]
      | faulted _ _ transfer fault =>
          rw [clean transfer] at fault
          simp at fault
  | faulted _ _ transfer fault =>
      cases other with
      | replied _ _ clean =>
          rw [clean transfer] at fault
          simp at fault
      | faulted _ _ _ faultToo =>
          rw [fault, Option.some_inj] at faultToo
          rw [faultToo]
  | timedOut member _ =>
      cases other with
      | timedOut inside _ => rw [sound.entry_eq member inside same]
  | stopped member =>
      cases other with
      | stopped inside => rw [sound.entry_eq member inside same]
  | refused closed =>
      cases other with
      | refused _ => rfl
      | displaced running _ =>
          rw [closed] at running
          simp at running
      | displacedByAssigned _ _ found => exact absurd same.symm (sound.not_refused found)
  | displaced running _ =>
      cases other with
      | refused closed =>
          rw [closed] at running
          simp at running
      | displaced _ _ => rfl
      | displacedByAssigned _ _ _ => rfl
  | displacedByAssigned _ _ found =>
      cases other with
      | refused _ => exact absurd same (sound.not_refused found)
      | displaced _ _ => rfl
      | displacedByAssigned _ _ _ => rfl
  | displacedByRekey _ _ _ =>
      cases other with
      | displacedByRekey _ _ _ => rfl

/-- What a deed ends depends on the requests, the settings, the lifecycle and the clock only. -/
theorem Ends.of_quiet (quiet : Quiet c d) (ends : Ends d deed ticket first) :
    Ends c deed ticket first := by
  have finds : ∀ id, d.registry.find? id = c.registry.find? id := fun id => by
    rw [Registry.find?, Registry.find?, quiet.entries]
  cases ends with
  | replied known found clean =>
      rw [finds] at found
      rw [quiet.config] at clean
      exact .replied known found clean
  | faulted known found transfer fault =>
      rw [finds] at found
      rw [quiet.config] at transfer
      exact .faulted known found transfer fault
  | timedOut member late =>
      rw [quiet.entries] at member
      rw [quiet.now] at late
      exact .timedOut member late
  | stopped member =>
      rw [quiet.entries] at member
      exact .stopped member
  | refused closed =>
      rw [quiet.lifecycle] at closed
      rw [quiet.handoffs, quiet.lifecycle]
      exact .refused closed
  | displaced running found =>
      rw [quiet.lifecycle] at running
      rw [finds] at found
      exact .displaced running found
  | displacedByAssigned assigned different found =>
      rw [finds] at found
      exact .displacedByAssigned assigned different found
  | displacedByRekey source different found =>
      rw [finds] at source found
      exact .displacedByRekey source different found

end Coordinator

end Mediation
