import Mediation.Failure
import Mediation.Message

/-!
# Exchanges

An exchange is the unit of work that passes through a pipeline: an inbound message, perhaps an
outbound one, a slot for one failure, and the bookkeeping of redeliveries. How a delivery ended is
read off the exchange (`Exchange.outcome`): a rollback, asked for by mark or by failure, goes before
an ordinary failure.
-/

set_option autoImplicit false

namespace Mediation

/-! ## Attempt counts -/

abbrev Attempts := UInt32

namespace Attempts

/-- One more attempt; the largest count stays as it is. -/
def next (attempts : Attempts) : Attempts :=
  if attempts = 4294967295 then attempts else attempts + 1

/-- The attempts made since an earlier count, none if the count has gone down. -/
def since (attempts entry : Attempts) : Attempts :=
  if entry ≤ attempts then attempts - entry else 0

end Attempts

/-! ## Bookkeeping of redeliveries -/

/-- What redelivery has done to an exchange. -/
structure Redelivery where
  attempts : Attempts
  lastFailure : Option Failure
  handled : Bool
  continued : Bool
  rollbackOnly : Bool
deriving DecidableEq, Repr

namespace Redelivery

def fresh : Redelivery :=
  { attempts := 0, lastFailure := none, handled := false, continued := false,
    rollbackOnly := false }

instance : Inhabited Redelivery := ⟨fresh⟩

/-- Counts one more attempt and remembers the failure that called for it. -/
def recordAttempt (redelivery : Redelivery) (failure : Failure) : Redelivery :=
  { redelivery with attempts := redelivery.attempts.next, lastFailure := some failure }

/-- Remembers the failure of the last attempt. -/
def recordFailure (redelivery : Redelivery) (failure : Failure) : Redelivery :=
  { redelivery with lastFailure := some failure }

end Redelivery

/-! ## Exchanges -/

/-- The unit of work. -/
structure Exchange where
  id : String
  inbound : Message
  outbound : Option Message
  failure : Option Failure
  transacted : Bool
  redelivery : Redelivery
  properties : Dictionary Json

/-- How a delivery ended. -/
inductive Outcome
  | completed
  | failed
  | rolledBack
deriving DecidableEq, Repr

namespace Outcome

def name : Outcome → String
  | completed => "completed"
  | failed => "failed"
  | rolledBack => "rolled_back"

end Outcome

namespace Exchange

/-- A new exchange around an inbound message. -/
def receive (id : String) (inbound : Message) : Exchange :=
  { id, inbound, outbound := none, failure := none, transacted := false,
    redelivery := Redelivery.fresh, properties := Dictionary.empty }

instance : Inhabited Exchange := ⟨receive "" Message.empty⟩

def isFailed (x : Exchange) : Bool := x.failure.isSome

def isRollbackOnly (x : Exchange) : Bool := x.redelivery.rollbackOnly

/-- The exchange with a failure in the slot. -/
def withFailure (x : Exchange) (failure : Failure) : Exchange := { x with failure := some failure }

/-- The exchange with an empty failure slot. -/
def withoutFailure (x : Exchange) : Exchange := { x with failure := none }

def markRollback (x : Exchange) : Exchange :=
  { x with redelivery := { x.redelivery with rollbackOnly := true } }

def markHandled (x : Exchange) : Exchange :=
  { x with redelivery := { x.redelivery with handled := true } }

def markContinued (x : Exchange) : Exchange :=
  { x with redelivery := { x.redelivery with continued := true } }

/-- The exchange with one more attempt counted. -/
def recordAttempt (x : Exchange) (failure : Failure) : Exchange :=
  { x with redelivery := x.redelivery.recordAttempt failure }

/-- The exchange with the failure of its last attempt remembered. -/
def recordFailure (x : Exchange) (failure : Failure) : Exchange :=
  { x with redelivery := x.redelivery.recordFailure failure }

/-- The exchange at the start of a delivery: the bookkeeping of redeliveries is new. -/
def beginDelivery (x : Exchange) : Exchange := { x with redelivery := Redelivery.fresh }

/-- The outbound message, an empty one if there is none yet. -/
def outboundOrEmpty (x : Exchange) : Message := x.outbound.getD Message.empty

/-- The exchange with its outbound message changed; one is made if there is none. -/
def mapOutbound (change : Message → Message) (x : Exchange) : Exchange :=
  { x with outbound := some (change x.outboundOrEmpty) }

def withProperty (x : Exchange) (name : String) (value : Json) : Exchange :=
  { x with properties := x.properties.insert name value }

def withoutProperty (x : Exchange) (name : String) : Exchange :=
  { x with properties := x.properties.erase name }

def property? (x : Exchange) (name : String) : Option Json := x.properties.find? name

/-- Whether the failure in the slot asks for a rollback. -/
def failedByRollback (x : Exchange) : Bool := x.failure.any Failure.isRollback

def outcome (x : Exchange) : Outcome :=
  if x.isRollbackOnly || x.failedByRollback then .rolledBack
  else if x.isFailed then .failed
  else .completed

end Exchange

end Mediation
