import TelemetrySpool.Number.Double
import TelemetrySpool.Text.Digits
import TelemetrySpool.Text.Split

/-!
# Shortest decimal text of doubles

Every real between two bounds rounds to the same double. Among the decimals in that interval the
one with the fewest digits is written, and among those the one nearest to the double. It stands on
a decimal grid next to the double, so only the two neighbours of the double on each grid are tried.
-/

namespace TelemetrySpool

/-- A decimal `digits * 10 ^ exponent`. -/
structure Decimal where
  digits : Nat
  exponent : Int
  deriving DecidableEq, Repr

namespace Double

/-- A positive double and the bounds of the reals that round to it, over one denominator. -/
structure Interval where
  low : Nat
  value : Nat
  high : Nat
  denominator : Nat
  /-- Whether the bounds themselves round to the double. -/
  closed : Bool

/-- The interval of the reals that round to a positive finite double. -/
def interval (x : Double) : Interval :=
  let m := x.significand
  let q := x.exponent
  let unit := Nat.pow 2 (q - 2).toNat
  let belowGap := if x.fractionBits = 0 ∧ 1 < x.exponentBits then 1 else 2
  { low := (4 * m - belowGap) * unit
    value := 4 * m * unit
    high := (4 * m + 2) * unit
    denominator := Nat.pow 2 (2 - q).toNat
    closed := m % 2 = 0 }

/-- Whether `num / den` is `10 ^ k` at least. -/
def atLeastPowerOfTen (num den : Nat) (k : Int) : Bool :=
  den * Nat.pow 10 k.toNat ≤ num * Nat.pow 10 (-k).toNat

/-- The exponent of the highest power of ten that is not above `num / den`. -/
def decimalExponent (num den : Nat) : Int :=
  let guess := binaryExponent num den * 30103 / 100000
  if atLeastPowerOfTen num den (guess + 1) then guess + 1
  else if atLeastPowerOfTen num den guess then guess
  else guess - 1

/-- Whether `digits * 10 ^ scale` lies in an interval. -/
def Interval.contains (i : Interval) (digits : Nat) (scale : Int) : Bool :=
  let point := digits * i.denominator * Nat.pow 10 scale.toNat
  let low := i.low * Nat.pow 10 (-scale).toNat
  let high := i.high * Nat.pow 10 (-scale).toNat
  if i.closed then low ≤ point && point ≤ high else low < point && point < high

/-- The better of the two neighbours of the value on one decimal grid, if either will do. -/
def Interval.onGrid? (i : Interval) (scale : Int) : Option Nat :=
  let num := i.value * Nat.pow 10 (-scale).toNat
  let den := i.denominator * Nat.pow 10 scale.toNat
  let below := num / den
  match i.contains below scale, i.contains (below + 1) scale with
  | true, true => some (divideToEven num den)
  | true, false => some below
  | false, true => some (below + 1)
  | false, false => none

/-- The first grid, from coarse to fine, that holds a decimal of the interval. -/
def Interval.firstOnGrids (i : Interval) : (tries : Nat) → (scale : Int) → Decimal
  | 0, scale =>
    ⟨i.value * Nat.pow 10 (-scale).toNat / (i.denominator * Nat.pow 10 scale.toNat), scale⟩
  | tries + 1, scale =>
    match i.onGrid? scale with
    | some digits => ⟨digits, scale⟩
    | none => i.firstOnGrids tries (scale - 1)

/-- The shortest decimal that rounds to a positive finite double; seventeen digits always do. -/
def shortest (x : Double) : Decimal :=
  let i := x.interval
  i.firstOnGrids 17 (decimalExponent i.value i.denominator)

end Double

/-- The exponent of the highest power of ten that is not above a decimal. -/
def Decimal.magnitude (d : Decimal) : Int := (Digits.ofNat d.digits).length - 1 + d.exponent

/-- The digits of a decimal without the zeros at their end. -/
def Decimal.significantDigits (d : Decimal) : List Char :=
  Text.trimEnd (· = '0') (Digits.ofNat d.digits)

end TelemetrySpool
