import TelemetrySpool.Json.Basic
import TelemetrySpool.Number.Shortest

/-!
# JSON numbers

Doubles are written with their shortest digits, positional while the decimal point stays near them
and with an exponent otherwise, so that a double is never taken for a whole number. A numeral is
read into a whole number if it has neither fraction nor exponent and fits into sixty-four bits.
Otherwise it is read as a double: as many digits as fit into sixty-four bits are rounded to a
double, which is then scaled by a power of ten and rounded again.
-/

namespace TelemetrySpool.Json

/-- How many places the decimal point may move to the left of the digits. -/
def leastPositional : Int := -5

/-- How many digits may stand to the left of the decimal point. -/
def mostPositional : Int := 16

/-- The digits of a positive decimal with its point, or with an exponent. -/
def decimalText (d : Decimal) : List Char :=
  let digits := d.significantDigits
  let magnitude := d.magnitude
  if magnitude < leastPositional ∨ mostPositional ≤ magnitude then
    let exponent := (if magnitude < 0 then '-' else '+') :: Digits.ofNat magnitude.natAbs
    match digits with
    | [] => []
    | [d] => d :: 'e' :: exponent
    | d :: rest => d :: '.' :: rest ++ 'e' :: exponent
  else if magnitude < 0 then
    '0' :: '.' :: List.replicate (magnitude.natAbs - 1) '0' ++ digits
  else
    let whole := magnitude.toNat + 1
    if digits.length ≤ whole then
      digits ++ List.replicate (whole - digits.length) '0' ++ ['.', '0']
    else digits.take whole ++ '.' :: digits.drop whole

/-- A finite double in JSON. -/
def doubleText (x : Double) : List Char :=
  let magnitude := if x.significand = 0 then ['0', '.', '0'] else decimalText x.shortest
  if x.isNegative then '-' :: magnitude else magnitude

/-- A JSON numeral, taken apart. -/
structure Numeral where
  negative : Bool
  whole : List Nat
  /-- The digits after the point, if there is one. -/
  fraction : Option (List Nat)
  /-- The sign and the digits of the exponent, if there is one. -/
  exponent : Option (Bool × List Nat)
  deriving DecidableEq, Repr

namespace Numeral

/-- The first number that takes more than sixty-four bits. -/
def limit : Nat := UInt64.size

/-- Appends digits to a number while it fits into sixty-four bits, and gives the digits left. -/
def takeDigits (acc : Nat) : List Nat → Nat × List Nat
  | [] => (acc, [])
  | d :: rest => if 10 * acc + d < limit then takeDigits (10 * acc + d) rest else (acc, d :: rest)

/-- The number spelled by digits. -/
def digitsValue (digits : List Nat) : Nat := digits.foldl (fun acc d => 10 * acc + d) 0

/-- The double `10 ^ n`. -/
def powerOfTen (n : Nat) : Double := Double.nearest (Nat.pow 10 n) 1

/-- The highest power of ten among the doubles. -/
def greatestPower : Nat := 308

/--
Scales a double by a power of ten, rounding after each multiplication or division; none if the
magnitude becomes too great. Dividing by the highest power three times leaves nothing of any
number of sixty-four bits.
-/
def scale : (rounds : Nat) → Double → Int → Option Double
  | 0, x, _ => some x
  | rounds + 1, x, exponent =>
    if exponent.natAbs ≤ greatestPower then
      if 0 ≤ exponent then
        let y := x.times (powerOfTen exponent.natAbs)
        if y.isFinite then some y else none
      else some (x.dividedBy (powerOfTen exponent.natAbs))
    else if x.significand = 0 then some x
    else if 0 ≤ exponent then none
    else scale rounds (x.dividedBy (powerOfTen greatestPower)) (exponent + greatestPower)

/-- The digits of a numeral that fit into sixty-four bits, and the power of ten they lack. -/
def parts (n : Numeral) : Nat × Int :=
  let (whole, dropped) := takeDigits 0 n.whole
  let fraction := n.fraction.getD []
  let (digits, ignored) := takeDigits whole fraction
  let places : Int := (fraction.length - ignored.length : Nat)
  let exponent : Int :=
    match n.exponent with
    | none => 0
    | some (false, digits) => digitsValue digits
    | some (true, digits) => -(digitsValue digits : Int)
  (digits, dropped.length - places + exponent)

/-- The magnitude of a numeral as a double. -/
def magnitude? (n : Numeral) : Option Double :=
  let (digits, exponent) := n.parts
  scale 4 (Double.nearest digits 1) exponent

/-- Whether a numeral is a whole number of at most sixty-four bits that is not a negative zero. -/
def integer? (n : Numeral) : Option Int :=
  if n.fraction.isSome ∨ n.exponent.isSome then none
  else
    let value := digitsValue n.whole
    if n.negative then
      if 0 < value ∧ value ≤ limit / 2 then some (-(value : Int)) else none
    else if value < limit then some value else none

/-- The value of a numeral. -/
def toJson (n : Numeral) : Json :=
  match n.integer? with
  | some value => .integer value
  | none =>
    match n.magnitude? with
    | some x => .double (if n.negative then x.negate else x)
    | none => .unreadable

end Numeral

end TelemetrySpool.Json
