/-!
# Socket addresses

A socket address is an IP address with a port. An address of four bytes is written in decimal; one
of eight groups of sixteen bits in hexadecimal, between brackets, where `::` stands for a run of
zeros, the last two groups may be written as four bytes, and a zone may follow a percent sign.
`SocketAddress.ofText?` reads every such spelling, `SocketAddress.text` writes one for each address:
the longest run of zeros is left out, and no number has a zero in front.
-/

set_option autoImplicit false

namespace Mediation

/-- An address of four bytes. -/
structure Ipv4 where
  first : UInt8
  second : UInt8
  third : UInt8
  fourth : UInt8
deriving DecidableEq, Repr

/-- An address of eight groups. -/
structure Ipv6 where
  groups : List UInt16
  length_groups : groups.length = 8
deriving DecidableEq, Repr

/-- An IP address with a port. Zone zero is no zone. -/
inductive SocketAddress
  | v4 (address : Ipv4) (port : UInt16)
  | v6 (address : Ipv6) (zone : UInt32) (port : UInt16)
deriving DecidableEq, Repr

namespace Ipv4

def groups (address : Ipv4) : List UInt16 :=
  [address.first.toUInt16 * 256 + address.second.toUInt16,
   address.third.toUInt16 * 256 + address.fourth.toUInt16]

def ofGroups (high low : UInt16) : Ipv4 :=
  { first := (high / 256).toUInt8, second := high.toUInt8, third := (low / 256).toUInt8,
    fourth := low.toUInt8 }

/-- The four bytes, with points between them. -/
def text (address : Ipv4) : String :=
  String.intercalate "."
    ([address.first, address.second, address.third, address.fourth].map fun byte =>
      toString byte.toNat)

end Ipv4

/-! ## Reading -/

namespace SocketAddress

def digit? (radix : Nat) (c : Char) : Option Nat :=
  let value :=
    if '0' ≤ c ∧ c ≤ '9' then c.toNat - '0'.toNat
    else if 'a' ≤ c ∧ c ≤ 'z' then c.toNat - 'a'.toNat + 10
    else if 'A' ≤ c ∧ c ≤ 'Z' then c.toNat - 'A'.toNat + 10
    else radix
  if value < radix then some value else none

/-- Reads all the digits that follow, of which there are at least one and at most `most`. Their
value is below `bound`. -/
def number (radix bound : Nat) (most : Option Nat) (input : List Char) :
    Option (Nat × List Char) :=
  let digits := input.takeWhile fun c => (digit? radix c).isSome
  let value := (digits.filterMap (digit? radix)).foldl (fun value digit => value * radix + digit) 0
  if digits.isEmpty || most.any (· < digits.length) || bound ≤ value then none
  else some (value, input.drop digits.length)

def given (c : Char) : List Char → Option (List Char)
  | [] => none
  | first :: rest => if first = c then some rest else none

/-- Reads a byte in decimal, without a zero in front. -/
def byte (input : List Char) : Option (UInt8 × List Char) := do
  let (value, rest) ← number 10 256 (some 3) input
  if input.head? = some '0' ∧ rest.length + 1 < input.length then none
  else some (UInt8.ofNat value, rest)

def ipv4 (input : List Char) : Option (Ipv4 × List Char) := do
  let (first, rest) ← byte input
  let (second, rest) ← byte (← given '.' rest)
  let (third, rest) ← byte (← given '.' rest)
  let (fourth, rest) ← byte (← given '.' rest)
  return ({ first, second, third, fourth }, rest)

/-- Reads as many groups as there are, up to a number of them; all but the first of an address
follow a colon. Four bytes stand for two groups and end them. The answer says whether they did. -/
def groups : Nat → Bool → List Char → List UInt16 × Bool × List Char
  | 0, _, input => ([], false, input)
  | most + 1, leading, input =>
    match if leading then some input else given ':' input with
    | none => ([], false, input)
    | some start =>
      match if 0 < most then ipv4 start else none with
      | some (address, rest) => (address.groups, true, rest)
      | none =>
        match number 16 65536 (some 4) start with
        | none => ([], false, input)
        | some (value, rest) =>
          let (others, embedded, rest) := groups most false rest
          (UInt16.ofNat value :: others, embedded, rest)

def eight? (groups : List UInt16) : Option Ipv6 :=
  if full : groups.length = 8 then some ⟨groups, full⟩ else none

/-- Reads eight groups, or fewer around a `::` that stands for at least one. Four bytes may only
come last. -/
def ipv6 (input : List Char) : Option (Ipv6 × List Char) :=
  match groups 8 true input with
  | (front, embedded, rest) =>
    if front.length = 8 then (eight? front).map fun address => (address, rest)
    else if embedded then none
    else match rest with
      | ':' :: ':' :: rest =>
        let (back, _, rest) := groups (7 - front.length) true rest
        let zeros := List.replicate (8 - front.length - back.length) 0
        (eight? (front ++ zeros ++ back)).map fun address => (address, rest)
      | _ => none

/-- Reads a zone after a percent sign; without one the zone is zero. -/
def zone (input : List Char) : UInt32 × List Char :=
  match (given '%' input).bind (number 10 UInt32.size none) with
  | some (value, rest) => (UInt32.ofNat value, rest)
  | none => (0, input)

/-- Reads a colon and the port, which ends the text. -/
def port? (input : List Char) : Option UInt16 := do
  let (value, rest) ← number 10 UInt16.size none (← given ':' input)
  if rest.isEmpty then some (UInt16.ofNat value) else none

/-- Reads an address of four bytes with a port. -/
def ofShort? (input : List Char) : Option SocketAddress := do
  let (address, rest) ← ipv4 input
  return .v4 address (← port? rest)

/-- Reads an address of eight groups with a port. -/
def ofLong? (input : List Char) : Option SocketAddress := do
  let (address, rest) ← ipv6 (← given '[' input)
  let (zone, rest) := zone rest
  return .v6 address zone (← port? (← given ']' rest))

/-- The address that a text stands for. -/
def ofText? (text : String) : Option SocketAddress :=
  ofShort? text.toList <|> ofLong? text.toList

end SocketAddress

/-! ## Writing -/

namespace Ipv6

/-- Groups in hexadecimal, with colons between them. -/
def colons (groups : List UInt16) : String :=
  String.intercalate ":" (groups.map fun group => String.ofList (Nat.toDigits 16 group.toNat))

/-- The number of zeros that begin at a place. -/
def zerosFrom (groups : List UInt16) (start : Nat) : Nat :=
  ((groups.drop start).takeWhile (· == 0)).length

/-- The first of the longest runs of zeros: its place and its length. -/
def longestZeros (groups : List UInt16) : Nat × Nat :=
  (List.range groups.length).foldl
    (fun best start =>
      if best.2 < zerosFrom groups start then (start, zerosFrom groups start) else best)
    (0, 0)

/-- Groups in hexadecimal; the longest run of two zeros or more is left out. -/
def compressed (groups : List UInt16) : String :=
  let (start, length) := longestZeros groups
  if 1 < length then
    colons (groups.take start) ++ "::" ++ colons (groups.drop (start + length))
  else colons groups

/-- The text of an address. One that stands for an address of four bytes shows these. -/
def text (address : Ipv6) : String :=
  match address.groups with
  | [0, 0, 0, 0, 0, 0xffff, high, low] => "::ffff:" ++ (Ipv4.ofGroups high low).text
  | groups => compressed groups

end Ipv6

namespace SocketAddress

/-- The text of an address with its port. -/
def text : SocketAddress → String
  | v4 address port => address.text ++ ":" ++ toString port.toNat
  | v6 address zone port =>
    let zoned := if zone = 0 then address.text else address.text ++ "%" ++ toString zone.toNat
    "[" ++ zoned ++ "]:" ++ toString port.toNat

end SocketAddress

end Mediation
