import Mediation.Exchange.Document
import Mediation.Number.Decimal
import Mediation.Scenario.Action
import Mediation.Scenario.Criterion
import Mediation.Scenario.Stage

/-!
# Reading the parts of a script

A script is a document. This module reads what all kinds of scripts are made of: times, messages and
exchanges, policies, settings of coordinators and transports, actions and commands. A part that is
left out has a standard value; a part of the wrong form makes the whole unreadable.
-/

set_option autoImplicit false

namespace Mediation.Scenario.Reading

/-! ## Values -/

/-- A part of an object, null if it is missing. -/
def part (name : String) (j : Json) : Json := (j.field? name).getD .null

/-- A value that has a standard if it is left out. -/
def given {α : Type} (standard : α) (read : Json → Option α) : Json → Option α
  | .null => some standard
  | value => read value

def items? : Json → Option (List Json)
  | .array items => some items
  | _ => none

def items : Json → Option (List Json) := given [] items?

/-- A time: milliseconds, or seconds and nanoseconds. -/
def duration? : Json → Option Duration
  | .int value => if value < 0 then none else some (Duration.ofMillis value.toNat)
  | value => Duration.ofJson? value

def duration : Json → Option Duration := given Duration.zero duration?

/-- A double, as a number or as a text. -/
def double? : Json → Option Binary64
  | .double value => some value
  | .int value =>
    let magnitude := Binary64.ofNat value.natAbs
    some (if value < 0 then magnitude.neg else magnitude)
  | .text text => Binary64.ofText? text
  | _ => none

def panic? (kind text : Json) : Option Panic := do
  let kind ← kind.text?
  let text ← given "" Json.text? text
  some (if kind = "other" then .other else .text text)

/-! ## Messages and exchanges -/

/-- A message; body and headers may be left out. -/
def message? (j : Json) : Option Message := do
  let headers ← given Dictionary.empty Message.headersOfJson? (part "headers" j)
  some { headers, body := part "body" j }

/-- An exchange: a whole one, or a new one of an identity that is given. -/
def exchange? (id : String) (j : Json) : Option Exchange := do
  match j.field? "raw" with
  | some whole => Exchange.ofJson? whole
  | none =>
    let inbound ← message? j
    let transacted ← given false Json.bool? (part "transacted" j)
    let properties ← given Dictionary.empty Exchange.propertiesOfJson? (part "properties" j)
    some { Exchange.receive id inbound with transacted, properties }

/-! ## Settings -/

def policySetting? (name : String) (value : Json) : Option Policy.Setting :=
  match name with
  | "max" => value.count?.map .max
  | "delay" => (duration? value).map .delay
  | "cap" => (duration? value).map .cap
  | "backoff" => (double? value).map .backoff
  | "jitter" => value.bool?.map .jitter
  | _ => none

/-- A policy: the standard one with settings in turn. -/
def policy? : Json → Option Policy
  | .null | .text _ => some Policy.standard
  | .object fields => do
    let settings ← fields.mapM fun (name, value) => policySetting? name value
    some (Policy.ofSettings settings)
  | .array calls => do
    let settings ← calls.mapM fun
      | .array [.text name, value] => policySetting? name value
      | _ => none
    some (Policy.ofSettings settings)
  | _ => none

def config? (j : Json) : Option CoordinatorConfig := do
  let standard := CoordinatorConfig.standard
  let sweepInterval ← given standard.sweepInterval duration? (part "sweep_interval" j)
  let earlyReplyWait ← given standard.earlyReplyWait duration? (part "early_reply_wait" j)
  let replyAddressTimeout ←
    given standard.replyAddressTimeout duration? (part "reply_address_timeout" j)
  let defaultRequestTimeout ←
    given standard.defaultRequestTimeout duration? (part "default_request_timeout" j)
  let shutdownGrace ← given standard.shutdownGrace duration? (part "shutdown_grace" j)
  let transferFaults ← given standard.transferFaults Json.bool? (part "transfer_faults" j)
  some { sweepInterval, earlyReplyWait, replyAddressTimeout, defaultRequestTimeout, shutdownGrace,
         transferFaults }

/-- Who answers the requests on a loopback. -/
def responder? (j : Json) : Option (Message → Message) :=
  match part "echo" j with
  | .bool true => some fun request => request
  | _ => (message? j).map fun reply _ => reply

def loopback? (j : Json) : Option Loopback := do
  let standard := Loopback.standard
  let replyLatency ← duration (part "reply_latency" j)
  let assignIds ← given standard.assignIds Json.bool? (part "assign_ids" j)
  let silent ← given standard.silent Json.bool? (part "silent" j)
  let sendFailure ← (part "failing_sends" j).optional? Json.text?
  let replyAddress ← given standard.replyAddress Json.text? (part "reply_address" j)
  let addressDelay ← duration (part "reply_address_delay" j)
  let addressFailure ← (part "failing_reply_address" j).optional? Json.text?
  let responder ← given standard.responder responder? (part "responder" j)
  some { replyLatency, assignIds, silent, sendFailure, replyAddress, addressDelay, addressFailure,
         responder }

def sendAnswer? : Json → Option (Except Failure (Option String))
  | .null => some (.ok none)
  | .text id => some (.ok (some id))
  | value => (Failure.ofJson? value).map .error

/-- A transport that nobody has used yet. -/
def transport? (j : Json) : Option Transport := do
  match part "type" j with
  | .text "scripted" =>
    let answers ← (← items (part "assigned" j)).mapM sendAnswer?
    some (Transport.ofLine (.scripted answers))
  | _ => (loopback? j).map fun settings => Transport.ofLine (.loopback settings)

/-- A coordinator that was never started. -/
def coordinator? (naming : Nat → String) (j : Json) : Option Coordinator := do
  let config ← config? (part "config" j)
  let transport ← transport? (part "transport" j)
  some (Coordinator.create config transport naming)

/-! ## Actions -/

def messageAction? : List Json → Option MessageAction
  | [.text "body"] => some .body
  | [.text "set_body", value] => some (.setBody value)
  | [.text "header", .text name] => some (.header name)
  | [.text "set_header", .text name, .text value] => some (.setHeader name value)
  | [.text "with_header", .text name, .text value] => some (.setHeader name value)
  | [.text "remove_header", .text name] => some (.removeHeader name)
  | [.text "headers"] => some .headers
  | [.text "correlation_id"] => some .correlationId
  | [.text "equals", other] => (message? other).map .compare
  | _ => none

/-- Something done with the inbound or the outbound message. -/
def sideAction? : List Json → Option Action
  | [.text "in_body", value] => some (.inbound (.setBody value))
  | [.text "in_header", .text name, .text value] => some (.inbound (.setHeader name value))
  | [.text "in_remove", .text name] => some (.inbound (.removeHeader name))
  | [.text "in_get", .text name] => some (.inbound (.header name))
  | [.text "in_cid"] => some (.inbound .correlationId)
  | [.text "out_body", value] => some (.outbound (.setBody value))
  | [.text "out_header", .text name, .text value] => some (.outbound (.setHeader name value))
  | [.text "out_remove", .text name] => some (.outbound (.removeHeader name))
  | [.text "touch_out"] => some .touchOutbound
  | [.text "out_get", .text name] => some (.outboundHeader name)
  | [.text "out_cid"] => some .outboundId
  | [.text "set_out", value] => (message? value).map .setOutbound
  | [.text "take_out"] => some .takeOutbound
  | _ => none

/-- Something done with the failure slot and the bookkeeping of redeliveries. -/
def failureAction? : List Json → Option Action
  | [.text "set_failure", value] => (Failure.ofJson? value).map .setFailure
  | [.text "take_failure"] => some .takeFailure
  | [.text "failure"] => some .currentFailure
  | [.text "is_failed"] => some .isFailed
  | [.text "rollback"] => some .rollback
  | [.text "is_rollback_only"] => some .isRollbackOnly
  | [.text "attempt", value] => (Failure.ofJson? value).map .recordAttempt
  | [.text "record_failure", value] => (Failure.ofJson? value).map .recordFailure
  | [.text "handled"] => some .markHandled
  | [.text "continued"] => some .markContinued
  | [.text "redelivery"] => some .redelivery
  | [.text "begin_delivery"] => some .beginDelivery
  | [.text "outcome"] => some .outcome
  | [.text "fail", value] => (Failure.ofJson? value).map .fail
  | [.text "fail_unless_prop", .text name, value] =>
    (Failure.ofJson? value).map fun failure => .failUnless name failure
  | [.text "panic", kind] => (panic? kind .null).map .panic
  | [.text "panic", kind, text] => (panic? kind text).map .panic
  | _ => none

/-- Something done with the rest of an exchange. -/
def exchangeAction? : List Json → Option Action
  | [.text "prop", .text name, value] => some (.setProperty name value)
  | [.text "get_prop", .text name] => some (.property name)
  | [.text "del_prop", .text name] => some (.takeProperty name)
  | [.text "pinned_prop", .text name] => some (.notePinned name)
  | [.text "attempts_prop", .text name] => some (.noteAttempts name)
  | [.text "failure_prop", .text name] => some (.noteFailure name)
  | [.text "transacted", value] => value.bool?.map .setTransacted
  | [.text "is_transacted"] => some .isTransacted
  | [.text "id"] => some .id
  | _ => none

def action? (parts : List Json) : Option Action :=
  sideAction? parts <|> failureAction? parts <|> exchangeAction? parts

/-! ## Handlers -/

def criterion? : Json → Option Criterion
  | .object [("is", .text "timeout")] => some .timeout
  | .object [("is", .text "rollback")] => some .rollback
  | .object [("is", .text "exhausted")] => some .exhausted
  | .object [("is", .text "step")] => some .step
  | .object [("is", .text "never")] => some .never
  | .object [("root_kind", .text kind)] => some (.rootKind kind)
  | .object [("text", .text part)] => some (.mentions part)
  | .object [("equals", other)] => (Failure.ofJson? other).map .equals
  | _ => none

def command? (name : String) (grace : Json) : Option HandlerCommand :=
  match name with
  | "start" => some .start
  | "stop" => (duration grace).map .stop
  | "health" => some .health
  | "in_flight" => some .inFlight
  | "state" => some .phase
  | "policy" => some .policy
  | _ => none

end Mediation.Scenario.Reading
