import Mediation.Coordinator.Turn

/-!
# Requests as steps

A request/reply step sends the inbound message of its exchange as a request and hands the exchange
back once the request has ended. If the request was superseded, the exchange comes back as it went
in, with that failure.
-/

set_option autoImplicit false

namespace Mediation.RequestReply

def stepName : String := "request-reply"

/-- The task of a request. Without a timeout of its own it has that of the coordinator. -/
def job (config : CoordinatorConfig) (timeout : Option Duration) (x : Exchange) : Job :=
  .request x (timeout.getD config.defaultRequestTimeout) none

/-- The exchange that the step hands back, from the one it was given and the report on its
request. -/
def conclude (given : Exchange) : Report → Exchange
  | .returned x => x
  | .failed failure => given.withFailure failure
  | _ => given

end Mediation.RequestReply
