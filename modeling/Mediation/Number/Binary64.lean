/-!
# Double-precision numbers, exactly

A finite double is a sign and a whole number of *units*, where one unit is `2 ^ -1074`, the
smallest positive double. Every finite double is a whole number of units, so products, quotients
and sums are computed exactly on natural numbers and rounded once, to the nearest representable
number, a tie going to the even neighbour (`roundUnits`). Nothing here is approximate, and every
result can be computed inside a proof.
-/

set_option autoImplicit false

namespace Mediation

/-- A double: a signed number of units of `2 ^ -1074`, an infinity, or no number. -/
inductive Binary64
  | finite (negative : Bool) (units : Nat)
  | infinite (negative : Bool)
  | nan
deriving DecidableEq, Repr, Inhabited

namespace Binary64

/-! ## Rounding -/

def unitsPerOne : Nat := Nat.pow 2 1074

/-- The least number of units beyond every finite double. -/
def unitsBeyond : Nat := Nat.pow 2 2098

/-- The whole number nearest to `num / den`, a half going to the even neighbour. -/
def nearestEven (num den : Nat) : Nat :=
  let whole := num / den
  let rest := num % den
  if 2 * rest < den then whole
  else if den < 2 * rest then whole + 1
  else whole + whole % 2

/-- The exponent of the spacing of representable numbers of units around `units`: the leading 53
binary digits are kept. -/
def spacing (units : Nat) : Nat := units.log2 - 52

/-- The representable number of units nearest to `num / den`. -/
def roundUnits (num den : Nat) : Nat :=
  let step := Nat.pow 2 (spacing (num / den))
  nearestEven num (den * step) * step

/-- The double of a sign and a rounded number of units; too large a number is an infinity. -/
def ofUnits (negative : Bool) (units : Nat) : Binary64 :=
  if units < unitsBeyond then finite negative units else infinite negative

/-! ## Arithmetic -/

/-- The double nearest to a natural number. -/
def ofNat (n : Nat) : Binary64 := ofUnits false (roundUnits (n * unitsPerOne) 1)

def zero : Binary64 := finite false 0

def one : Binary64 := finite false unitsPerOne

def half : Binary64 := finite false (Nat.pow 2 1073)

def isFinite : Binary64 → Bool
  | finite _ _ => true
  | _ => false

/-- The number with its sign turned round. -/
def neg : Binary64 → Binary64
  | finite negative units => finite (!negative) units
  | infinite negative => infinite (!negative)
  | nan => nan

def mul : Binary64 → Binary64 → Binary64
  | finite s a, finite t b => ofUnits (s != t) (roundUnits (a * b) unitsPerOne)
  | infinite s, finite t b => if b = 0 then nan else infinite (s != t)
  | finite s a, infinite t => if a = 0 then nan else infinite (s != t)
  | infinite s, infinite t => infinite (s != t)
  | _, _ => nan

def div : Binary64 → Binary64 → Binary64
  | finite s a, finite t b =>
    if b = 0 then (if a = 0 then nan else infinite (s != t))
    else ofUnits (s != t) (roundUnits (a * unitsPerOne) b)
  | infinite s, finite t _ => infinite (s != t)
  | finite s _, infinite t => finite (s != t) 0
  | _, _ => nan

/-- The units of a finite double with their sign. -/
def signedUnits (negative : Bool) (units : Nat) : Int := if negative then -units else units

/-- The rounded sum. Opposite numbers add up to positive zero. -/
def add : Binary64 → Binary64 → Binary64
  | finite s a, finite t b =>
    let sum := signedUnits s a + signedUnits t b
    let negative := if sum = 0 then s && t else decide (sum < 0)
    ofUnits negative (roundUnits sum.natAbs 1)
  | infinite s, infinite t => if s = t then infinite s else nan
  | infinite s, finite _ _ => infinite s
  | finite _ _, infinite t => infinite t
  | _, _ => nan

/-! ## Comparison -/

/-- Strictly smaller; nothing is smaller or larger than no number. -/
def lt : Binary64 → Binary64 → Bool
  | finite s a, finite t b => signedUnits s a < signedUnits t b
  | infinite s, infinite t => s && !t
  | infinite s, finite _ _ => s
  | finite _ _, infinite t => !t
  | _, _ => false

/-- Equal in value: both zeros are one value, and no number is not equal to itself. -/
def same : Binary64 → Binary64 → Bool
  | finite s a, finite t b => signedUnits s a = signedUnits t b
  | infinite s, infinite t => s = t
  | _, _ => false

def le (a b : Binary64) : Bool := lt a b || same a b

/-- The whole part, no smaller than zero and no larger than `limit`. -/
def truncate (limit : Nat) : Binary64 → Nat
  | finite negative units => if negative then 0 else min (units / unitsPerOne) limit
  | infinite negative => if negative then 0 else limit
  | nan => 0

/-! ## Powers -/

/-- The powers that repeated squaring multiplies into `result`, lowest bit of the exponent first.
`base` is squared after every bit but the last. -/
def powLoop (base result : Binary64) (exponent : Nat) : Binary64 :=
  let result := if exponent % 2 = 1 then result.mul base else result
  if exponent / 2 = 0 then result else powLoop (base.mul base) result (exponent / 2)
termination_by exponent
decreasing_by omega

/-- `base` to a whole power by repeated squaring; a negative power is the inverse of the positive
one. -/
def pow (base : Binary64) (exponent : Int) : Binary64 :=
  let power := powLoop base one exponent.natAbs
  if exponent < 0 then one.div power else power

/-! ## Decimal notation -/

/-- The double nearest to a power of ten. -/
def powerOfTen (exponent : Nat) : Binary64 := ofNat (Nat.pow 10 exponent)

/-- The largest power of ten below infinity. -/
def largestTen : Nat := 308

/-- Divides by `10 ^ exponent`, in steps that each stay below infinity. -/
def divideByTens (value : Binary64) (exponent : Nat) : Binary64 :=
  if exponent ≤ largestTen then value.div (powerOfTen exponent)
  else if value.same zero then value
  else divideByTens (value.div (powerOfTen largestTen)) (exponent - largestTen)
termination_by exponent
decreasing_by simp only [largestTen] at *; omega

/-- The double written as `digits · 10 ^ exponent`: the digits become a double, which is then
multiplied or divided by a power of ten. Nothing is returned for a number beyond the largest
double. -/
def ofDecimal? (digits : Nat) (exponent : Int) : Option Binary64 :=
  let value := ofNat digits
  if exponent < 0 then some (divideByTens value exponent.natAbs)
  else if exponent.toNat ≤ largestTen then
    let scaled := value.mul (powerOfTen exponent.toNat)
    if scaled.isFinite then some scaled else none
  else if digits = 0 then some value
  else none

end Binary64

end Mediation
