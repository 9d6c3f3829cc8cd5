import Mediation.Number.Binary64

/-!
# Doubles from text

A text stands for a double if it is a decimal number, with a sign, a point and an exponent as one
likes, or the name of an infinity or of no number. The double is the one nearest to the number that
is written, a half going to the even neighbour.
-/

set_option autoImplicit false

namespace Mediation.Binary64

/-- Numbers of more decimal digits before the point than this are beyond the largest double. -/
def mostPlaces : Int := 310

/-- Numbers with more zeros after the point than this are nearer to zero than to any other
double. -/
def leastPlaces : Int := -330

/-- The double nearest to `digits · 10 ^ exponent`. -/
def nearest (negative : Bool) (digits : Nat) (exponent : Int) : Binary64 :=
  let places := (Nat.toDigits 10 digits).length + exponent
  if digits = 0 ∨ places < leastPlaces then finite negative 0
  else if mostPlaces < places then infinite negative
  else if exponent < 0 then
    ofUnits negative (roundUnits (digits * unitsPerOne) (Nat.pow 10 exponent.natAbs))
  else ofUnits negative (roundUnits (digits * Nat.pow 10 exponent.natAbs * unitsPerOne) 1)

/-- A sign, if there is one, and what follows. -/
def sign : List Char → Bool × List Char
  | '-' :: rest => (true, rest)
  | '+' :: rest => (false, rest)
  | rest => (false, rest)

def digitsValue (digits : List Char) : Nat :=
  digits.foldl (fun value c => value * 10 + (c.toNat - '0'.toNat)) 0

/-- The exponent that ends a number; there need not be one. -/
def exponent? : List Char → Option Int
  | [] => some 0
  | c :: rest =>
    let (negative, digits) := sign rest
    if (c = 'e' ∨ c = 'E') ∧ ¬ digits.isEmpty ∧ digits.all Char.isDigit then
      let size : Int := digitsValue digits
      some (if negative then -size else size)
    else none

def magnitude? (negative : Bool) (input : List Char) : Option Binary64 :=
  let whole := input.takeWhile Char.isDigit
  let rest := input.dropWhile Char.isDigit
  let (fraction, rest) := match rest with
    | '.' :: rest => (rest.takeWhile Char.isDigit, rest.dropWhile Char.isDigit)
    | rest => ([], rest)
  let digits := whole ++ fraction
  if digits.isEmpty then none
  else (exponent? rest).map fun exponent =>
    nearest negative (digitsValue digits) (exponent - fraction.length)

def ofText? (text : String) : Option Binary64 :=
  let (negative, rest) := sign text.toList
  let name := String.ofList (rest.map Char.toLower)
  if name = "inf" ∨ name = "infinity" then some (infinite negative)
  else if name = "nan" then some nan
  else magnitude? negative rest

end Mediation.Binary64
