import Mediation.Exchange.Basic
import Mediation.Pinning

/-!
# Actions on messages and exchanges

The things that a scripted step does, one after the other: it reads and changes the exchange, leaves
a failure, or panics. Each action gives an answer.
-/

set_option autoImplicit false

namespace Mediation.Scenario

/-- What an action answers. -/
inductive Answer
  | nothing
  | flag (value : Bool)
  | text (value : String)
  | json (value : Json)
  | message (value : Message)
  | headers (entries : List (String × String))
  | failure (value : Failure)
  | redelivery (value : Redelivery)
  | outcome (value : Outcome) (isFailed : Bool)
  | fails (failure : Failure)

namespace Answer

def ofText? : Option String → Answer
  | some value => text value
  | none => nothing

def ofMessage? : Option Message → Answer
  | some value => message value
  | none => nothing

def ofFailure? : Option Failure → Answer
  | some value => failure value
  | none => nothing

def ofJson? : Option Json → Answer
  | some value => json value
  | none => nothing

end Answer

/-! ## Messages -/

/-- Something done with a message. -/
inductive MessageAction
  | body
  | setBody (value : Json)
  | header (name : String)
  | setHeader (name value : String)
  | removeHeader (name : String)
  | headers
  | correlationId
  | compare (other : Message)

def MessageAction.apply (message : Message) : MessageAction → Message × Answer
  | body => (message, .json message.body)
  | setBody value => (message.withBody value, .nothing)
  | header name => (message, .ofText? (message.header? name))
  | setHeader name value => (message.withHeader name value, .nothing)
  | removeHeader name => (message.withoutHeader name, .ofText? (message.header? name))
  | headers => (message, .headers message.headers.entries)
  | correlationId => (message, .ofText? message.correlationId?)
  | compare other => (message, .flag (message.same other))

/-! ## Exchanges -/

/-- Something done with an exchange. -/
inductive Action
  | inbound (action : MessageAction)
  /-- Makes an outbound message if there is none. -/
  | outbound (action : MessageAction)
  | touchOutbound
  | outboundHeader (name : String)
  | outboundId
  | setOutbound (message : Message)
  | takeOutbound
  | setFailure (failure : Failure)
  | takeFailure
  | currentFailure
  | isFailed
  | rollback
  | isRollbackOnly
  | setProperty (name : String) (value : Json)
  | property (name : String)
  | takeProperty (name : String)
  | recordAttempt (failure : Failure)
  | recordFailure (failure : Failure)
  | markHandled
  | markContinued
  | redelivery
  | beginDelivery
  | setTransacted (value : Bool)
  | isTransacted
  | id
  | outcome
  /-- Notes in a property whether the step is pinned. -/
  | notePinned (name : String)
  /-- Notes the attempt count in a property. -/
  | noteAttempts (name : String)
  /-- Notes the text of the failure in a property. -/
  | noteFailure (name : String)
  | fail (failure : Failure)
  | failUnless (name : String) (failure : Failure)
  | panic (payload : Panic)

namespace Action

def apply (pinned : Bool) (x : Exchange) : Action → Except Panic (Exchange × Answer)
  | inbound action =>
    let (message, answer) := action.apply x.inbound
    .ok ({ x with inbound := message }, answer)
  | outbound action =>
    let (message, answer) := action.apply x.outboundOrEmpty
    .ok ({ x with outbound := some message }, answer)
  | touchOutbound => .ok (x.mapOutbound fun message => message, .nothing)
  | outboundHeader name => .ok (x, .ofText? (x.outbound.bind fun message => message.header? name))
  | outboundId => .ok (x, .ofText? (x.outbound.bind Message.correlationId?))
  | setOutbound message => .ok ({ x with outbound := some message }, .nothing)
  | takeOutbound => .ok ({ x with outbound := none }, .ofMessage? x.outbound)
  | setFailure failure => .ok (x.withFailure failure, .nothing)
  | takeFailure => .ok (x.withoutFailure, .ofFailure? x.failure)
  | currentFailure => .ok (x, .ofFailure? x.failure)
  | isFailed => .ok (x, .flag x.isFailed)
  | rollback => .ok (x.markRollback, .nothing)
  | isRollbackOnly => .ok (x, .flag x.isRollbackOnly)
  | setProperty name value => .ok (x.withProperty name value, .nothing)
  | property name => .ok (x, .ofJson? (x.property? name))
  | takeProperty name => .ok (x.withoutProperty name, .ofJson? (x.property? name))
  | recordAttempt failure => .ok (x.recordAttempt failure, .nothing)
  | recordFailure failure => .ok (x.recordFailure failure, .nothing)
  | markHandled => .ok (x.markHandled, .nothing)
  | markContinued => .ok (x.markContinued, .nothing)
  | redelivery => .ok (x, .redelivery x.redelivery)
  | beginDelivery => .ok (x.beginDelivery, .nothing)
  | setTransacted value => .ok ({ x with transacted := value }, .nothing)
  | isTransacted => .ok (x, .flag x.transacted)
  | id => .ok (x, .text x.id)
  | outcome => .ok (x, .outcome x.outcome x.isFailed)
  | notePinned name => .ok (x.withProperty name (.bool pinned), .nothing)
  | noteAttempts name =>
    .ok (x.withProperty name (.int x.redelivery.attempts.toNat), .nothing)
  | noteFailure name =>
    let text := match x.failure with
      | some failure => Json.text failure.text
      | none => Json.null
    .ok (x.withProperty name text, .nothing)
  | fail failure => .ok (x, .fails failure)
  | failUnless name failure =>
    .ok (x, if (x.property? name).isSome then .nothing else .fails failure)
  | panic payload => .error payload

end Action

/-- Does things with an exchange in turn; a failure that an action leaves is passed over. -/
def prepare (actions : List Action) (x : Exchange) : Except Panic Exchange :=
  actions.foldlM (fun x action => (action.apply false x).map (·.1)) x

end Mediation.Scenario
