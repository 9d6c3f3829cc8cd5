import Mediation.Json.Basic
import Mediation.Number.Shortest

/-!
# Writing JSON

`Json.compact` writes a value without blanks. A quote, a backslash and the control characters are
written with a backslash; every other character stands for itself. Doubles are written in the
fewest digits that read back, always with a point or an exponent.
-/

set_option autoImplicit false

namespace Mediation.Json

/-- The four hexadecimal digits of a small code point. -/
def fourDigits (code : Nat) : List Char :=
  let digits := Nat.toDigits 16 code
  List.replicate (4 - digits.length) '0' ++ digits

/-- The characters that stand for one character of a text. -/
def escape (c : Char) : List Char :=
  if c = '"' then ['\\', '"']
  else if c = '\\' then ['\\', '\\']
  else if c = '\n' then ['\\', 'n']
  else if c = '\r' then ['\\', 'r']
  else if c = '\t' then ['\\', 't']
  else if c.toNat = 8 then ['\\', 'b']
  else if c.toNat = 12 then ['\\', 'f']
  else if c.toNat < 32 then ['\\', 'u'] ++ fourDigits c.toNat
  else [c]

def writeText (text : String) : String :=
  String.ofList ('"' :: text.toList.flatMap escape ++ ['"'])

/-- A double; an infinity and no number have no notation and are written as nothing. -/
def writeDouble (value : Binary64) : String :=
  if value.isFinite then Spelling.document.write value else "null"

mutual

def compact : Json → String
  | null => "null"
  | bool value => if value then "true" else "false"
  | int value => toString value
  | double value => writeDouble value
  | text value => writeText value
  | array items => "[" ++ compactItems items ++ "]"
  | object fields => "\x7b" ++ compactFields fields ++ "\x7d"

def compactItems : List Json → String
  | [] => ""
  | [item] => compact item
  | item :: rest => compact item ++ "," ++ compactItems rest

def compactFields : List (String × Json) → String
  | [] => ""
  | [(name, value)] => writeText name ++ ":" ++ compact value
  | (name, value) :: rest => writeText name ++ ":" ++ compact value ++ "," ++ compactFields rest

end

end Mediation.Json
