import Mediation.Dictionary
import Mediation.Text.Described

/-!
# Messages

A message is a body and text headers. Two headers have a meaning to the engine: the correlation id,
which an empty text does not count as, and the fault that a remote side reports.
-/

set_option autoImplicit false

namespace Mediation

/-- A body with headers. -/
structure Message where
  headers : Dictionary String
  body : Json

namespace Message

def empty : Message := { headers := Dictionary.empty, body := .null }

instance : Inhabited Message := ⟨empty⟩

def ofBody (body : Json) : Message := { headers := Dictionary.empty, body }

/-- The header that carries the correlation id. -/
def correlationHeader : String := "CorrelationId"

def faultHeader : String := "Fault"

def header? (message : Message) (name : String) : Option String := message.headers.find? name

def withHeader (message : Message) (name value : String) : Message :=
  { message with headers := message.headers.insert name value }

def withoutHeader (message : Message) (name : String) : Message :=
  { message with headers := message.headers.erase name }

def withBody (message : Message) (body : Json) : Message := { message with body }

/-- The correlation id, if the header is there and not empty. -/
def correlationId? (message : Message) : Option String :=
  (message.header? correlationHeader).filter fun id => id ≠ ""

def same (message other : Message) : Bool :=
  message.headers.entries == other.headers.entries && message.body.same other.body

def described (message : Message) : String :=
  let headers := message.headers.entries.map fun (name, value) => (name, Quoted.quote value)
  Described.record "Message"
    [("headers", Described.mapping headers), ("body", message.body.described)]

end Message

end Mediation
