import Mediation.Number.Binary64

/-!
# The shortest decimal that reads back

A positive double is the nearest double to every real number of an interval around it: half way
down to its lower neighbour, half way up to its upper one, the ends included when its own last
binary digit is even. `Shortest.ofUnits` finds the fewest decimal digits that name a number of that
interval, and among those of that length the one nearest to the double itself.

`Spelling` says which of two equally near decimals is taken and how digits and exponent are written;
the two spellings in use differ in all of that.
-/

set_option autoImplicit false

namespace Mediation

/-- Decimal digits `d₁ d₂ … dₙ` with the decimal point after the first of them, times
`10 ^ exponent`. -/
structure Scientific where
  digits : List Char
  exponent : Int
deriving DecidableEq, Repr

/-- Which of two decimals is taken that are equally near to a double. -/
inductive Tie
  /-- The one whose last digit is even. -/
  | even
  /-- The larger one. -/
  | up
deriving DecidableEq, Repr

namespace Shortest

open Binary64 (unitsPerOne spacing)

/-- The interval of reals that round to `units`, in quarters of a unit, and whether its ends belong
to it. -/
structure Interval where
  low : Nat
  high : Nat
  closed : Bool

/-- The interval around a positive number of units. Below a power of two the spacing is halved. -/
def Interval.around (units : Nat) : Interval :=
  let above := Nat.pow 2 (spacing units)
  let below := if spacing units > 0 ∧ units = Nat.pow 2 units.log2 then above / 2 else above
  { low := 4 * units - 2 * below
    high := 4 * units + 2 * above
    closed := units / above % 2 = 0 }

/-- Whether `num / den` units lie in the interval. -/
def Interval.contains (interval : Interval) (num den : Nat) : Bool :=
  if interval.closed then interval.low * den ≤ 4 * num && 4 * num ≤ interval.high * den
  else interval.low * den < 4 * num && 4 * num < interval.high * den

/-- The least `shift` from `start` on, within `fuel` tries, for which `units · 10 ^ shift` reaches
one. -/
def leadingShift (units : Nat) : Nat → Nat → Nat
  | 0, shift => shift
  | fuel + 1, shift =>
    if unitsPerOne ≤ units * Nat.pow 10 shift then shift else leadingShift units fuel (shift + 1)

/-- The exponent of the leading decimal digit of a positive number of units. -/
def leadingExponent (units : Nat) : Int :=
  if unitsPerOne ≤ units then ((Nat.toDigits 10 (units / unitsPerOne)).length : Int) - 1
  else -(leadingShift units 400 1 : Int)

/-- Ten to a whole power, as a fraction. -/
def tenFraction (exponent : Int) : Nat × Nat :=
  if exponent < 0 then (1, Nat.pow 10 exponent.natAbs) else (Nat.pow 10 exponent.toNat, 1)

/-- The digits of a positive whole number without trailing zeros, as a scientific number whose last
written digit stands at `10 ^ last`. -/
def scientific (value : Nat) (last : Int) : Scientific :=
  let digits := Nat.toDigits 10 value
  let kept := (digits.reverse.dropWhile (· == '0')).reverse
  { digits := kept, exponent := last + digits.length - 1 }

/-- The whole number nearest to `num / den`. -/
def nearest (tie : Tie) (num den : Nat) : Nat :=
  match tie with
  | .even => Binary64.nearestEven num den
  | .up => (2 * num + den) / (2 * den)

/-- The best decimal whose last digit stands at `10 ^ last`, if one lies in the interval. -/
def onGrid? (tie : Tie) (units : Nat) (last : Int) : Option Nat :=
  let (up, down) := tenFraction last
  -- the double is `units · down / (unitsPerOne · up)` steps of the grid
  let num := units * down
  let den := unitsPerOne * up
  let lower := num / den
  let interval := Interval.around units
  let inside (steps : Nat) : Bool := interval.contains (steps * den) down
  let best := nearest tie num den
  let other := if best = lower then lower + 1 else lower
  if best ≠ 0 ∧ inside best then some best
  else if other ≠ 0 ∧ inside other then some other
  else none

def search (tie : Tie) (units : Nat) (lead : Int) : Nat → Nat → Scientific
  | 0, _ => scientific units 0
  | fuel + 1, count =>
    match onGrid? tie units (lead - count) with
    | some steps => scientific steps (lead - count)
    | none => search tie units lead fuel (count + 1)

/-- The shortest decimal of a positive number of units; seventeen digits always suffice. -/
def ofUnits (tie : Tie) (units : Nat) : Scientific :=
  search tie units (leadingExponent units) 18 0

end Shortest

/-- How a double is written. -/
structure Spelling where
  tie : Tie
  /-- The least decimal exponent that is written positionally. -/
  least : Int
  /-- The largest decimal exponent that is written positionally. -/
  most : Int
  /-- Whether a positive exponent has a sign. -/
  plus : Bool
deriving DecidableEq, Repr

namespace Spelling

/-- Numbers of a document are positional from `10 ^ -5` up to sixteen whole digits, and every other
exponent has a sign. -/
def document : Spelling := { tie := .even, least := -5, most := 15, plus := true }

/-- Numbers shown to a developer are positional from `10 ^ -4` up to sixteen whole digits. -/
def diagnostic : Spelling := { tie := .up, least := -4, most := 15, plus := false }

/-- Digits with the point after the digit at `10 ^ 0`; a whole number keeps one zero after it. -/
def positional (number : Scientific) : List Char :=
  let count : Int := number.digits.length
  if number.exponent < 0 then
    '0' :: '.' :: List.replicate (number.exponent.natAbs - 1) '0' ++ number.digits
  else if count ≤ number.exponent + 1 then
    number.digits ++ List.replicate (number.exponent + 1 - count).toNat '0' ++ ['.', '0']
  else
    let whole := (number.exponent + 1).toNat
    number.digits.take whole ++ '.' :: number.digits.drop whole

/-- One digit, the others after a point, and the exponent after an `e`. -/
def withExponent (spelling : Spelling) (number : Scientific) : List Char :=
  let mantissa := match number.digits with
    | first :: second :: rest => first :: '.' :: second :: rest
    | digits => digits
  let sign := if spelling.plus ∧ 0 < number.exponent then ['+'] else []
  mantissa ++ 'e' :: sign ++ (toString number.exponent).toList

def write (spelling : Spelling) : Binary64 → String
  | .nan => "NaN"
  | .infinite negative => if negative then "-inf" else "inf"
  | .finite negative units =>
    let sign := if negative then ['-'] else []
    if units = 0 then String.ofList (sign ++ ['0', '.', '0'])
    else
      let number := Shortest.ofUnits spelling.tie units
      let body :=
        if spelling.least ≤ number.exponent ∧ number.exponent ≤ spelling.most then
          positional number
        else spelling.withExponent number
      String.ofList (sign ++ body)

end Spelling

end Mediation
