import Mediation.Dictionary
import Mediation.Json.Basic
import Mediation.Number.Decimal

/-!
# Reading JSON

`Json.read?` reads one document. A reader gives what it makes of the front of a text, and the rest
of the text. A whole number of the 64-bit range is a whole number, every other number a double. The
fields of an object are put into ascending order of their names, and of two fields of one name the
later counts. Readers take a bound on their steps, which the length of the text always covers.
-/

set_option autoImplicit false

namespace Mediation.Json

/-- Whether a character is a blank between tokens. -/
def isBlank (c : Char) : Bool := c == ' ' || c == '\n' || c == '\t' || c == '\r'

/-- The text without its leading blanks. -/
def skipBlanks (input : List Char) : List Char := input.dropWhile isBlank

/-- The rest of a text that starts with `word`. -/
def dropWord? : List Char → List Char → Option (List Char)
  | [], input => some input
  | c :: word, d :: input => if c = d then dropWord? word input else none
  | _ :: _, [] => none

/-! ## Texts -/

def hexDigit? (c : Char) : Option Nat :=
  if '0' ≤ c ∧ c ≤ '9' then some (c.toNat - '0'.toNat)
  else if 'a' ≤ c ∧ c ≤ 'f' then some (c.toNat - 'a'.toNat + 10)
  else if 'A' ≤ c ∧ c ≤ 'F' then some (c.toNat - 'A'.toNat + 10)
  else none

def readUnit? : List Char → Option (Nat × List Char)
  | a :: b :: c :: d :: rest => do
    let a ← hexDigit? a
    let b ← hexDigit? b
    let c ← hexDigit? c
    let d ← hexDigit? d
    some (((a * 16 + b) * 16 + c) * 16 + d, rest)
  | _ => none

/-- The character that a short escape stands for. -/
def shortEscape? (c : Char) : Option Char :=
  if c = '"' ∨ c = '\\' ∨ c = '/' then some c
  else if c = 'b' then some (Char.ofNat 8)
  else if c = 'f' then some (Char.ofNat 12)
  else if c = 'n' then some '\n'
  else if c = 'r' then some '\r'
  else if c = 't' then some '\t'
  else none

/-- A character by its number; a character beyond the first plane takes two numbers. -/
def readNumbered? (input : List Char) : Option (Char × List Char) := do
  let (unit, rest) ← readUnit? input
  if 0xd800 ≤ unit ∧ unit < 0xdc00 then
    let rest ← dropWord? ['\\', 'u'] rest
    let (low, rest) ← readUnit? rest
    if 0xdc00 ≤ low ∧ low < 0xe000 then
      some (Char.ofNat (0x10000 + (unit - 0xd800) * 0x400 + (low - 0xdc00)), rest)
    else none
  else if 0xdc00 ≤ unit ∧ unit < 0xe000 then none
  else some (Char.ofNat unit, rest)

/-- The rest of a text after its opening quote. The characters read so far stand in reverse. -/
def readQuoted? : Nat → List Char → List Char → Option (String × List Char)
  | 0, _, _ => none
  | fuel + 1, sofar, input =>
    match input with
    | [] => none
    | '"' :: rest => some (String.ofList sofar.reverse, rest)
    | '\\' :: 'u' :: rest => do
      let (c, rest) ← readNumbered? rest
      readQuoted? fuel (c :: sofar) rest
    | '\\' :: c :: rest => do
      let c ← shortEscape? c
      readQuoted? fuel (c :: sofar) rest
    | c :: rest => if c.toNat < 32 then none else readQuoted? fuel (c :: sofar) rest

/-! ## Numbers -/

/-- Digits beyond the 64-bit range do not enter the value of a double; `kept` counts those that
do. -/
def leadingDigits : Nat → Nat → List Char → Nat × Nat
  | value, kept, [] => (value, kept)
  | value, kept, c :: rest =>
    let next := value * 10 + (c.toNat - '0'.toNat)
    if next < UInt64.size then leadingDigits next (kept + 1) rest else (value, kept)

/-- The sign and digits of an exponent, if one is written. -/
def readExponent? (input : List Char) : Option (Option Int × List Char) :=
  match input with
  | 'e' :: rest | 'E' :: rest =>
    let (negative, rest) := match rest with
      | '-' :: rest => (true, rest)
      | '+' :: rest => (false, rest)
      | rest => (false, rest)
    let digits := rest.takeWhile Char.isDigit
    if digits.isEmpty then none
    else
      let size : Int := Binary64.digitsValue digits
      some (some (if negative then -size else size), rest.dropWhile Char.isDigit)
  | rest => some (none, rest)

/-- The digits after a point, if one is written. -/
def readFraction? (input : List Char) : Option (Option (List Char) × List Char) :=
  match input with
  | '.' :: rest =>
    let digits := rest.takeWhile Char.isDigit
    if digits.isEmpty then none else some (some digits, rest.dropWhile Char.isDigit)
  | rest => some (none, rest)

/-- The number of whole digits, fraction and exponent. -/
def number? (negative : Bool) (whole : List Char) (fraction : Option (List Char))
    (exponent : Option Int) : Option Json :=
  let size : Int := Binary64.digitsValue whole
  let signed := if negative then -size else size
  let isWhole := fraction.isNone && exponent.isNone
  if isWhole ∧ leastInt ≤ signed ∧ signed ≤ mostInt ∧ ¬ (negative ∧ size = 0) then
    some (int signed)
  else do
    let digits := whole ++ fraction.getD []
    let (value, kept) := leadingDigits 0 0 digits
    let shift : Int := (whole.length : Int) - kept + exponent.getD 0
    let size ← Binary64.ofDecimal? value shift
    some (double (if negative then size.neg else size))

def readNumber? (input : List Char) : Option (Json × List Char) := do
  let (negative, rest) := match input with
    | '-' :: rest => (true, rest)
    | rest => (false, rest)
  let whole := rest.takeWhile Char.isDigit
  if whole.isEmpty ∨ (whole.length > 1 ∧ whole.head? = some '0') then none
  else
    let (fraction, rest) ← readFraction? (rest.dropWhile Char.isDigit)
    let (exponent, rest) ← readExponent? rest
    let value ← number? negative whole fraction exponent
    some (value, rest)

/-! ## Values -/

mutual

def readValue? : Nat → List Char → Option (Json × List Char)
  | 0, _ => none
  | fuel + 1, input =>
    match skipBlanks input with
    | '[' :: rest =>
      match skipBlanks rest with
      | ']' :: rest => some (array [], rest)
      | rest => do
        let (items, rest) ← readItems? fuel [] rest
        some (array items, rest)
    | '\x7b' :: rest =>
      match skipBlanks rest with
      | '\x7d' :: rest => some (object [], rest)
      | rest => do
        let (fields, rest) ← readFields? fuel [] rest
        some (object fields, rest)
    | '"' :: rest => do
      let (value, rest) ← readQuoted? (rest.length + 1) [] rest
      some (text value, rest)
    | 'n' :: rest => (dropWord? "ull".toList rest).map fun rest => (null, rest)
    | 't' :: rest => (dropWord? "rue".toList rest).map fun rest => (bool true, rest)
    | 'f' :: rest => (dropWord? "alse".toList rest).map fun rest => (bool false, rest)
    | rest => readNumber? rest

/-- The items of an array up to its closing bracket. -/
def readItems? : Nat → List Json → List Char → Option (List Json × List Char)
  | 0, _, _ => none
  | fuel + 1, sofar, input => do
    let (item, rest) ← readValue? fuel input
    match skipBlanks rest with
    | ',' :: rest => readItems? fuel (item :: sofar) rest
    | ']' :: rest => some ((item :: sofar).reverse, rest)
    | _ => none

/-- The fields of an object up to its closing brace. -/
def readFields? : Nat → List (String × Json) → List Char →
    Option (List (String × Json) × List Char)
  | 0, _, _ => none
  | fuel + 1, sofar, input =>
    match skipBlanks input with
    | '"' :: rest => do
      let (name, rest) ← readQuoted? (rest.length + 1) [] rest
      match skipBlanks rest with
      | ':' :: rest =>
        let (value, rest) ← readValue? fuel rest
        let fields := Entries.insert name value sofar
        match skipBlanks rest with
        | ',' :: rest => readFields? fuel fields rest
        | '\x7d' :: rest => some (fields, rest)
        | _ => none
      | _ => none
    | _ => none

end

/-- The document of a text, if the text is one. -/
def read? (input : String) : Option Json := do
  let characters := input.toList
  let (value, rest) ← readValue? (characters.length + 1) characters
  if (skipBlanks rest).isEmpty then some value else none

end Mediation.Json
