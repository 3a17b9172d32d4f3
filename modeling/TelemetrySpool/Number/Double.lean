/-!
# Double precision numbers

A double is its sixty-four bits. The finite ones are a sign and a magnitude `m * 2 ^ q` with
natural `m` and whole `q`, and the nearest double of a fraction is found in exact arithmetic,
a tie going to the even neighbour.
-/

namespace TelemetrySpool

/-- A binary floating-point number of sixty-four bits, kept as these bits. -/
structure Double where
  bits : UInt64
  deriving DecidableEq, Repr

namespace Double

/-- The positive zero. -/
def zero : Double := ⟨0⟩

/-- The first number that is too great for the fifty-two bits of a fraction. -/
def fractionLimit : Nat := 4503599627370496

/-- Whether the sign bit is set. -/
def isNegative (x : Double) : Bool := x.bits.toNat.testBit 63

/-- The biased exponent. -/
def exponentBits (x : Double) : Nat := x.bits.toNat / fractionLimit % 2048

/-- The fraction of the significand. -/
def fractionBits (x : Double) : Nat := x.bits.toNat % fractionLimit

/-- Whether a double is a number and not an infinity. -/
def isFinite (x : Double) : Bool := x.exponentBits ≠ 2047

/-- The natural `m` of the magnitude `m * 2 ^ q`. -/
def significand (x : Double) : Nat :=
  if x.exponentBits = 0 then x.fractionBits else fractionLimit + x.fractionBits

/-- The exponent `q` of the magnitude `m * 2 ^ q`. -/
def exponent (x : Double) : Int :=
  if x.exponentBits = 0 then -1074 else (x.exponentBits : Int) - 1075

/-- The number with the other sign. -/
def negate (x : Double) : Double := ⟨x.bits ^^^ 0x8000000000000000⟩

/-- The positive infinity. -/
def infinity : Double := ⟨0x7FF0000000000000⟩

/-- A quotient rounded to the nearest natural number, a half going to the even neighbour. -/
def divideToEven (num den : Nat) : Nat :=
  let q := num / den
  let r := num % den
  if 2 * r < den ∨ (2 * r = den ∧ q % 2 = 0) then q else q + 1

/-- Whether `num / den` is `2 ^ k` at least. -/
def atLeastPowerOfTwo (num den : Nat) (k : Int) : Bool :=
  den * Nat.pow 2 k.toNat ≤ num * Nat.pow 2 (-k).toNat

/-- The exponent of the highest power of two that is not above `num / den`. -/
def binaryExponent (num den : Nat) : Int :=
  let k : Int := (Nat.log2 num : Int) - (Nat.log2 den : Int)
  if atLeastPowerOfTwo num den k then k else k - 1

/--
The double nearest to `num / den`, and infinity where the magnitude is too great. The bits of a
positive double count its place among them, so that rounding up to the next power of two carries
into the exponent by itself.
-/
def nearest (num den : Nat) : Double :=
  if num = 0 then zero
  else
    let q := max (binaryExponent num den - 52) (-1074)
    let m := divideToEven (num * Nat.pow 2 (-q).toNat) (den * Nat.pow 2 q.toNat)
    let bits := (q + 1074).toNat * fractionLimit + m
    if bits < 2047 * fractionLimit then ⟨UInt64.ofNat bits⟩ else infinity

/-- The magnitude of a finite double as a fraction. -/
def numerator (x : Double) : Nat := x.significand * Nat.pow 2 x.exponent.toNat

/-- The denominator that belongs to the numerator, a power of two. -/
def denominator (x : Double) : Nat := Nat.pow 2 (-x.exponent).toNat

/-- The nearest double to the product of the magnitudes of two finite doubles. -/
def times (x y : Double) : Double :=
  nearest (x.numerator * y.numerator) (x.denominator * y.denominator)

/-- The nearest double to the quotient of the magnitudes of two finite doubles. -/
def dividedBy (x y : Double) : Double :=
  nearest (x.numerator * y.denominator) (x.denominator * y.numerator)

/-- The double nearest to a whole number. -/
def ofInt (n : Int) : Double :=
  let magnitude := nearest n.natAbs 1
  if n < 0 then magnitude.negate else magnitude

end Double

end TelemetrySpool
