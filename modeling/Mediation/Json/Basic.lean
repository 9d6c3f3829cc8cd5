import Mediation.Number.Binary64

/-!
# JSON values

A JSON value keeps whole numbers apart from doubles: `1` and `1.0` are different values. An object
lists its fields; documents that are read list them in ascending order of their names, each name
once. `Json.same` compares values as the engine does: doubles by value, all else by form.
-/

set_option autoImplicit false

namespace Mediation

/-- A JSON value. -/
inductive Json
  | null
  | bool (value : Bool)
  | int (value : Int)
  | double (value : Binary64)
  | text (value : String)
  | array (items : List Json)
  | object (fields : List (String × Json))
deriving Repr, Inhabited

namespace Json

/-- The least and the largest whole number that is not read as a double. -/
def leastInt : Int := -9223372036854775808

/-- The largest whole number that is not read as a double. -/
def mostInt : Int := UInt64.size - 1

mutual

/-- Equality of values; both zeros are one double. -/
def same : Json → Json → Bool
  | null, null => true
  | bool a, bool b => a == b
  | int a, int b => a == b
  | double a, double b => a.same b
  | text a, text b => a == b
  | array a, array b => sameItems a b
  | object a, object b => sameFields a b
  | _, _ => false

def sameItems : List Json → List Json → Bool
  | [], [] => true
  | a :: rest, b :: others => same a b && sameItems rest others
  | _, _ => false

def sameFields : List (String × Json) → List (String × Json) → Bool
  | [], [] => true
  | (name, a) :: rest, (other, b) :: others => name == other && same a b && sameFields rest others
  | _, _ => false

end

def field? (name : String) : Json → Option Json
  | object fields => (fields.find? fun field => field.1 = name).map (·.2)
  | _ => none

end Json

end Mediation
