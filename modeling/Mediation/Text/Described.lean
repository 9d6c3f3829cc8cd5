import Mediation.Duration
import Mediation.Json.Basic
import Mediation.Number.Shortest
import Mediation.Text.Quoted

/-!
# Developer texts

The parts that texts for developers are put together from: a record names its fields, a tagged value
stands in parentheses, a list in brackets, a mapping in braces. A record that does not show all its
fields ends in two points.
-/

set_option autoImplicit false

namespace Mediation.Described

/-- The texts, with commas between them. -/
def separated (texts : List String) : String := String.intercalate ", " texts

/-- The fields of a record, each after its name. -/
def fields (named : List (String × String)) : List String :=
  named.map fun (name, text) => name ++ ": " ++ text

/-- A record that shows all its fields. -/
def record (name : String) (named : List (String × String)) : String :=
  name ++ " \x7b " ++ separated (fields named) ++ " \x7d"

/-- A record that shows some of its fields. -/
def openRecord (name : String) (named : List (String × String)) : String :=
  name ++ " \x7b " ++ separated (fields named ++ [".."]) ++ " \x7d"

def tagged (tag text : String) : String := tag ++ "(" ++ text ++ ")"

def optional : Option String → String
  | none => "None"
  | some text => tagged "Some" text

def list (texts : List String) : String := "[" ++ separated texts ++ "]"

def mapping (entries : List (String × String)) : String :=
  "\x7b" ++ separated (entries.map fun (key, text) => Quoted.quote key ++ ": " ++ text) ++ "\x7d"

def bool (value : Bool) : String := if value then "true" else "false"

def double (value : Binary64) : String := Spelling.diagnostic.write value

end Mediation.Described

namespace Mediation.Json

mutual

/-- The developer text of a JSON value names its kind. -/
def described : Json → String
  | null => "Null"
  | bool value => Described.tagged "Bool" (Described.bool value)
  | int value => Described.tagged "Number" (toString value)
  | double value => Described.tagged "Number" (Spelling.document.write value)
  | text value => Described.tagged "String" (Quoted.quote value)
  | array items => "Array [" ++ Described.separated (describedItems items) ++ "]"
  | object fields => "Object \x7b" ++ Described.separated (describedFields fields) ++ "\x7d"

/-- The developer texts of the items of an array. -/
def describedItems : List Json → List String
  | [] => []
  | item :: rest => described item :: describedItems rest

/-- The developer texts of the fields of an object. -/
def describedFields : List (String × Json) → List String
  | [] => []
  | (name, value) :: rest => (Quoted.quote name ++ ": " ++ described value) :: describedFields rest

end

end Mediation.Json
