import Mediation.Exchange.Document
import Mediation.Json.Writer
import Mediation.Scenario.Action
import Mediation.Scenario.Stage

/-!
# Answers of scripts as documents

The JSON forms of what scripts show beside exchanges: errors, health, settings, requests that were
sent, verdicts, and the answers to actions and commands. Objects list their fields in ascending
order of names.
-/

set_option autoImplicit false

namespace Mediation.Scenario.Document

def record (fields : List (String × Json)) : Json := .object (Entries.ofList fields)

def number (n : Nat) : Json := .int n

def optionalText : Option String → Json := Json.ofOption .text

def instant (instant : Instant) : Json := number (Instant.millis instant)

def lifecycleError (error : LifecycleError) : Json :=
  record [("error", .text "LifecycleError"), ("message", .text error.text),
    ("component", .text error.component), ("from", .text error.source.name),
    ("to", .text error.target.name)]

/-- Why a component could not do what it was asked for. -/
def runtimeError (error : RuntimeError) : Json :=
  record [("error", .text error.kind), ("message", .text error.text)]

def stopped : Option RuntimeError → Json
  | none => .text "ok"
  | some error => runtimeError error

def healthCheck (check : HealthCheck) : Json :=
  let details := check.details.map fun (key, value) => Json.array [.text key, .text value]
  record [("component", .text check.component), ("status", .text check.status.name),
    ("message", optionalText check.message), ("metadata", .array details)]

def health (health : Health) : Json :=
  record (("display", .text health.name) ::
    Health.all.map fun grade => (grade.name, .bool (decide (health = grade))))

def superseded : Json :=
  record [("error", .text Failure.superseded.described), ("message", .text Failure.superseded.text)]

def verdict : Verdict → Json
  | .resumed x synchronous => record [("exchange", x.toJson), ("sync", .bool synchronous)]
  | .superseded => superseded

def config (config : CoordinatorConfig) : Json :=
  record [("sweep_interval", config.sweepInterval.toJson),
    ("early_reply_wait", config.earlyReplyWait.toJson),
    ("reply_address_timeout", config.replyAddressTimeout.toJson),
    ("default_request_timeout", config.defaultRequestTimeout.toJson),
    ("shutdown_grace", config.shutdownGrace.toJson),
    ("transfer_faults", .bool config.transferFaults)]

/-- A double; one that documents have no number for is a text. -/
def double : Binary64 → Json
  | .infinite negative => .text (if negative then "-inf" else "inf")
  | .nan => .text "NaN"
  | value => .double value

def policy (policy : Policy) : Json :=
  record [("max_redeliveries", Json.ofCount policy.maxRedeliveries),
    ("redelivery_delay", policy.delay.toJson), ("max_delay", policy.cap.toJson),
    ("backoff_multiplier", double policy.multiplier),
    ("use_exponential_backoff", .bool policy.exponential), ("jitter", .bool policy.jitter)]

def sent (sent : Sent) : Json :=
  let id := match sent.correlationId with
    | some id => [("correlation_id", Json.text id)]
    | none => []
  record ([("provisional_id", .text sent.provisionalId), ("reply_to", .text sent.replyTo),
    ("body", sent.body)] ++ id)

/-- Published counts, with the number of outstanding requests unless there are none. -/
def metrics (entries : List (String × Nat)) (gauge : Nat) : Json :=
  let pending := if gauge = 0 then [] else [(pendingGaugeName, gaugeReading gauge)]
  record ((entries ++ pending).map fun (name, value) => (name, number value))

def answer : Answer → Json
  | .nothing => .null
  | .flag value => .bool value
  | .text value => .text value
  | .json value => value
  | .message value => value.toJson
  | .headers entries => .array (entries.map fun (name, value) => .array [.text name, .text value])
  | .failure value => value.toJson
  | .redelivery value => value.toJson
  | .outcome value isFailed =>
    record [("outcome", .text value.name), ("is_failed", .bool isFailed)]
  | .fails value => record [("fail", value.toJson)]

def handlerAnswer : HandlerAnswer → Json
  | .done => .text "ok"
  | .refused error => lifecycleError error
  | .failed error => runtimeError error
  | .health check => healthCheck check
  | .count value => number value
  | .text value => .text value

def commandName : HandlerCommand → String
  | .start => "start"
  | .stop _ => "stop"
  | .health => "health"
  | .inFlight => "in_flight"
  | .phase => "state"
  | .policy => "policy"

/-- One entry of a trace, as a line of text. -/
def traceLine : TraceEntry → String
  | .ran name execution => name ++ "#" ++ toString execution
  | .time instant => "t=" ++ toString (Instant.millis instant)
  | .asked command answer => commandName command ++ ":" ++ (handlerAnswer answer).compact

end Mediation.Scenario.Document
