import Mediation.Exchange.Basic
import Mediation.Json.Writer

/-!
# Transports

A transport carries requests to the other side, may give each an id of its own, and knows the
address that replies are to be sent to. The loopback transport answers every request itself, after
a latency; the scripted one gives prepared answers to its sends and never replies.
-/

set_option autoImplicit false

namespace Mediation

/-- The settings of a transport that answers its own requests. -/
structure Loopback where
  replyLatency : Duration
  assignIds : Bool
  silent : Bool
  sendFailure : Option String
  replyAddress : String
  addressDelay : Duration
  addressFailure : Option String
  /-- Makes the reply to a request; its correlation id is set afterwards. -/
  responder : Message → Message

namespace Loopback

/-- A text as it is, any other value as a document. -/
def bodyText : Json → String
  | .text value => value
  | value => value.compact

/-- The reply that says goodbye to the body of the request. -/
def farewell (request : Message) : Message :=
  Message.ofBody (.text ("Bye " ++ bodyText request.body))

/-- Answers at once, under the ids of the requests. -/
def standard : Loopback :=
  { replyLatency := Duration.zero, assignIds := false, silent := false, sendFailure := none,
    replyAddress := "loopback:replies", addressDelay := Duration.zero, addressFailure := none,
    responder := farewell }

end Loopback

/-- The kinds of transport. -/
inductive Line
  | loopback (settings : Loopback)
  | scripted (answers : List (Except Failure (Option String)))

/-- A request that was sent. -/
structure Sent where
  provisionalId : String
  /-- The id that replies will carry, where the transport knows it. -/
  correlationId : Option String
  replyTo : String
  body : Json

/-- A transport at work. -/
structure Transport where
  line : Line
  sent : List Sent
  /-- How many ids have been assigned. -/
  assigned : Nat
  /-- Whether someone listens for replies. -/
  listening : Bool

/-- What a send has done. -/
structure Dispatch where
  transport : Transport
  /-- The assigned id, if any, or why the request was not accepted. -/
  answer : Except Failure (Option String)
  /-- The reply that is on its way, and the time it takes. -/
  reply : Option (Message × Duration)

namespace Transport

/-- A transport that nobody has used yet. -/
def ofLine (line : Line) : Transport := { line, sent := [], assigned := 0, listening := false }

instance : Inhabited Transport := ⟨ofLine (.loopback Loopback.standard)⟩

def listen (transport : Transport) : Transport := { transport with listening := true }

def sendBack (transport : Transport) (settings : Loopback) (request : Message)
    (replyTo provisional : String) : Dispatch :=
  match settings.sendFailure with
  | some reason => { transport, answer := .error (.transport reason), reply := none }
  | none =>
    let assigned := if settings.assignIds then transport.assigned + 1 else transport.assigned
    let assignedId :=
      if settings.assignIds then some ("loopback-" ++ toString assigned) else none
    let replyId := assignedId.getD provisional
    let record : Sent :=
      { provisionalId := provisional, correlationId := some replyId, replyTo,
        body := request.body }
    let reply :=
      if settings.silent || !transport.listening then none
      else some ((settings.responder request).withHeader Message.correlationHeader replyId,
        settings.replyLatency)
    { transport := { transport with sent := transport.sent ++ [record], assigned }
      answer := .ok assignedId
      reply }

/-- Sends a request and takes the next prepared answer; without one, the request is accepted. -/
def sendScripted (transport : Transport) (answers : List (Except Failure (Option String)))
    (request : Message) (replyTo provisional : String) : Dispatch :=
  let record : Sent :=
    { provisionalId := provisional, correlationId := none, replyTo, body := request.body }
  { transport :=
      { transport with line := .scripted answers.tail, sent := transport.sent ++ [record] }
    answer := answers.headD (.ok none)
    reply := none }

/-- Sends the inbound message of an exchange. -/
def send (transport : Transport) (request : Message) (replyTo provisional : String) : Dispatch :=
  match transport.line with
  | .loopback settings => transport.sendBack settings request replyTo provisional
  | .scripted answers => transport.sendScripted answers request replyTo provisional

/-- The time it takes to find the reply address, and what is found. -/
def resolution (transport : Transport) : Duration × Except Failure String :=
  match transport.line with
  | .loopback settings =>
    (settings.addressDelay,
     match settings.addressFailure with
     | some reason => .error (.transport reason)
     | none => .ok settings.replyAddress)
  | .scripted _ => (Duration.zero, .ok "scripted:replies")

/-- The text for developers; a scripted transport has none. -/
def described? (transport : Transport) : Option String :=
  match transport.line with
  | .loopback settings =>
    some (Described.openRecord "LoopbackTransport"
      [("reply_latency", settings.replyLatency.text),
       ("assign_ids", Described.bool settings.assignIds),
       ("silent", Described.bool settings.silent),
       ("sent", toString transport.sent.length)])
  | .scripted _ => none

end Transport

end Mediation
