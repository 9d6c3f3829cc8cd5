import Mediation.Exchange.Basic

/-!
# Exchanges as documents

The JSON form of failures, messages, redelivery bookkeeping and exchanges, and its reading.

A record is written as an object with one field for each of its parts. It is read from such an
object, where fields it does not know are passed over and a missing optional field is absent, or
from an array of exactly its parts in order. A duration knows no other fields than its two. A
failure is an object with its name as the only field, except for the one without parts, which is a
text.
-/

set_option autoImplicit false

namespace Mediation

/-! ## Writing -/

def Json.ofOption {α : Type} (write : α → Json) : Option α → Json
  | none => .null
  | some value => write value

def Json.ofCount (count : UInt32) : Json := .int count.toNat

def Duration.toJson (d : Duration) : Json :=
  .object [("nanos", .int d.nanos), ("secs", .int d.seconds)]

def Failure.toJson : Failure → Json
  | .timeout id limit =>
    .object [("Timeout", .object [("correlation_id", .text id), ("timeout", limit.toJson)])]
  | .rollback reason => .object [("Rollback", .object [("reason", .text reason)])]
  | .exhausted attempts cause =>
    .object [("Exhausted", .object [("attempts", Json.ofCount attempts), ("cause", cause.toJson)])]
  | .step kind message =>
    .object [("Step", .object [("kind", .text kind), ("message", .text message)])]
  | .transport reason => .object [("Transport", .text reason)]
  | .remote fault => .object [("Remote", .text fault)]
  | .shutdown reason => .object [("Shutdown", .text reason)]
  | .superseded => .text "Superseded"

def Message.headersJson (message : Message) : Json :=
  .object (message.headers.entries.map fun (name, value) => (name, .text value))

def Message.toJson (message : Message) : Json :=
  .object [("body", message.body), ("headers", message.headersJson)]

/-- The document of the bookkeeping of redeliveries. -/
def Redelivery.toJson (redelivery : Redelivery) : Json :=
  .object
    [("attempts", Json.ofCount redelivery.attempts),
     ("continued", .bool redelivery.continued),
     ("handled", .bool redelivery.handled),
     ("last_failure", Json.ofOption Failure.toJson redelivery.lastFailure),
     ("rollback_only", .bool redelivery.rollbackOnly)]

def Exchange.toJson (x : Exchange) : Json :=
  .object
    [("failure", Json.ofOption Failure.toJson x.failure),
     ("id", .text x.id),
     ("inbound", x.inbound.toJson),
     ("outbound", Json.ofOption Message.toJson x.outbound),
     ("properties", .object x.properties.entries),
     ("redelivery", x.redelivery.toJson),
     ("transacted", .bool x.transacted)]

/-! ## Reading -/

namespace Json

def bool? : Json → Option Bool
  | bool value => some value
  | _ => none

def text? : Json → Option String
  | text value => some value
  | _ => none

def natBelow? (bound : Nat) : Json → Option Nat
  | int value => if 0 ≤ value ∧ value < bound then some value.toNat else none
  | _ => none

def count? (value : Json) : Option UInt32 := (value.natBelow? UInt32.size).map UInt32.ofNat

def optional? {α : Type} (read : Json → Option α) : Json → Option (Option α)
  | null => some none
  | value => (read value).map some

def required? {α : Type} (fields : List (String × Json)) (name : String)
    (read : Json → Option α) : Option α :=
  match Entries.find? name fields with
  | some value => read value
  | none => none

/-- A field that is null if it is missing. -/
def missingNull? {α : Type} (fields : List (String × Json)) (name : String)
    (read : Json → Option (Option α)) : Option (Option α) :=
  match Entries.find? name fields with
  | some value => read value
  | none => some none

def textFields? : List (String × Json) → Option (List (String × String))
  | [] => some []
  | (name, value) :: rest => do
    let value ← value.text?
    let rest ← textFields? rest
    some ((name, value) :: rest)

end Json

/-- Seconds and nanoseconds from an object of these two fields alone, or from an array. -/
def Duration.ofJson? : Json → Option Duration
  | .object fields => do
    if fields.all fun field => field.1 = "secs" ∨ field.1 = "nanos" then
      let seconds ← Json.required? fields "secs" (Json.natBelow? UInt64.size)
      let nanos ← Json.required? fields "nanos" (Json.natBelow? UInt32.size)
      Duration.ofParts? seconds nanos
    else none
  | .array [seconds, nanos] => do
    let seconds ← seconds.natBelow? UInt64.size
    let nanos ← nanos.natBelow? UInt32.size
    Duration.ofParts? seconds nanos
  | _ => none

mutual

def Failure.ofJson? : Json → Option Failure
  | .text name => if name = "Superseded" then some .superseded else none
  | .object [("Timeout", .object fields)] => do
    let id ← Json.required? fields "correlation_id" Json.text?
    let limit ← Json.required? fields "timeout" Duration.ofJson?
    some (.timeout id limit)
  | .object [("Rollback", .object fields)] => do
    let reason ← Json.required? fields "reason" Json.text?
    some (.rollback reason)
  | .object [("Exhausted", .object fields)] => do
    let attempts ← Json.required? fields "attempts" Json.count?
    let cause ← Failure.causeOfFields? fields
    some (.exhausted attempts cause)
  | .object [("Step", .object fields)] => do
    let kind ← Json.required? fields "kind" Json.text?
    let message ← Json.required? fields "message" Json.text?
    some (.step kind message)
  | .object [("Transport", reason)] => reason.text?.map .transport
  | .object [("Remote", fault)] => fault.text?.map .remote
  | .object [("Shutdown", reason)] => reason.text?.map .shutdown
  | .object [("Superseded", .null)] => some .superseded
  | _ => none

/-- The wrapped failure among the fields of a given-up redelivery. -/
def Failure.causeOfFields? : List (String × Json) → Option Failure
  | [] => none
  | (name, value) :: rest =>
    if name = "cause" then Failure.ofJson? value else Failure.causeOfFields? rest

end

def Message.headersOfJson? : Json → Option (Dictionary String)
  | .object fields => (Json.textFields? fields).map Dictionary.ofList
  | _ => none

def Message.ofJson? : Json → Option Message
  | .object fields => do
    let headers ← Json.required? fields "headers" Message.headersOfJson?
    let body ← Json.required? fields "body" some
    some { headers, body }
  | .array [headers, body] => do
    let headers ← Message.headersOfJson? headers
    some { headers, body }
  | _ => none

/-- The bookkeeping of redeliveries that a document says. -/
def Redelivery.ofJson? : Json → Option Redelivery
  | .object fields => do
    let attempts ← Json.required? fields "attempts" Json.count?
    let lastFailure ← Json.missingNull? fields "last_failure" (Json.optional? Failure.ofJson?)
    let handled ← Json.required? fields "handled" Json.bool?
    let continued ← Json.required? fields "continued" Json.bool?
    let rollbackOnly ← Json.required? fields "rollback_only" Json.bool?
    some { attempts, lastFailure, handled, continued, rollbackOnly }
  | .array [attempts, lastFailure, handled, continued, rollbackOnly] => do
    let attempts ← attempts.count?
    let lastFailure ← lastFailure.optional? Failure.ofJson?
    let handled ← handled.bool?
    let continued ← continued.bool?
    let rollbackOnly ← rollbackOnly.bool?
    some { attempts, lastFailure, handled, continued, rollbackOnly }
  | _ => none

def Exchange.propertiesOfJson? : Json → Option (Dictionary Json)
  | .object fields => some (Dictionary.ofList fields)
  | _ => none

def Exchange.ofJson? : Json → Option Exchange
  | .object fields => do
    let id ← Json.required? fields "id" Json.text?
    let inbound ← Json.required? fields "inbound" Message.ofJson?
    let outbound ← Json.missingNull? fields "outbound" (Json.optional? Message.ofJson?)
    let failure ← Json.missingNull? fields "failure" (Json.optional? Failure.ofJson?)
    let transacted ← Json.required? fields "transacted" Json.bool?
    let redelivery ← Json.required? fields "redelivery" Redelivery.ofJson?
    let properties ← Json.required? fields "properties" Exchange.propertiesOfJson?
    some { id, inbound, outbound, failure, transacted, redelivery, properties }
  | .array [id, inbound, outbound, failure, transacted, redelivery, properties] => do
    let id ← id.text?
    let inbound ← Message.ofJson? inbound
    let outbound ← outbound.optional? Message.ofJson?
    let failure ← failure.optional? Failure.ofJson?
    let transacted ← transacted.bool?
    let redelivery ← Redelivery.ofJson? redelivery
    let properties ← Exchange.propertiesOfJson? properties
    some { id, inbound, outbound, failure, transacted, redelivery, properties }
  | _ => none

end Mediation
