import Telemetry.Bytes
/-!
Binary floating point numbers of 64 bits, kept as their bit patterns.

A pattern is a sign and a magnitude. The finite magnitudes number the multiples of the least
positive value, two to the power -1074, that have at most 53 significant bits, in ascending
order; above them stand infinity and the patterns that are no number. All arithmetic below is
exact arithmetic on natural numbers followed by one rounding (`Binary64.magnitudeOfRatio`).
-/

namespace Telemetry

structure Binary64 where
  bits : UInt64
deriving DecidableEq, Repr, Inhabited

namespace Binary64

/-- The weight of the sign in a pattern, two to the power 63. -/
def signWeight : Nat := 0x8000000000000000

/-- The least significand of full length, two to the power 52. -/
def leadingWeight : Nat := 0x10000000000000

/-- The magnitude of infinity; every smaller magnitude is finite. -/
def infinite : Nat := 2047 * leadingWeight

def ofMagnitude (negative : Bool) (magnitude : Nat) : Binary64 :=
  ⟨UInt64.ofNat ((if negative then signWeight else 0) + magnitude % signWeight)⟩

def negative (number : Binary64) : Bool := decide (signWeight ≤ number.bits.toNat)

def magnitude (number : Binary64) : Nat := number.bits.toNat % signWeight

def isFinite (number : Binary64) : Bool := decide (number.magnitude < infinite)

def isInfinite (number : Binary64) : Bool := decide (number.magnitude = infinite)

def isNaN (number : Binary64) : Bool := decide (infinite < number.magnitude)

def zero : Binary64 := ⟨0⟩

def one : Binary64 := ⟨0x3FF0000000000000⟩

def infinity (negative : Bool) : Binary64 := ofMagnitude negative infinite

/-- The one pattern without a numeric value that readings of text produce. -/
def nan : Binary64 := ⟨0x7FF8000000000000⟩

/-- The significant bits of a finite magnitude, as a natural number. -/
def significand (magnitude : Nat) : Nat :=
  if magnitude < leadingWeight then magnitude else leadingWeight + magnitude % leadingWeight

/-- The power of two, counted from -1074, that the significant bits are multiplied by. -/
def scale (magnitude : Nat) : Nat := magnitude / leadingWeight - 1

def ratio (magnitude : Nat) : Nat × Nat :=
  let shift := scale magnitude
  if 1074 ≤ shift then (significand magnitude * Nat.pow 2 (shift - 1074), 1)
  else (significand magnitude, Nat.pow 2 (1074 - shift))

/-- The quotient rounded to the nearest natural number, a half to the even neighbour. -/
def halfEven (numerator denominator : Nat) : Nat :=
  let quotient := numerator / denominator
  let rest := 2 * (numerator % denominator)
  if denominator < rest ∨ (rest = denominator ∧ quotient % 2 = 1) then quotient + 1
  else quotient

/-- The exponent of the greatest power of two that does not exceed a positive quotient. -/
def floorLog2 (numerator denominator : Nat) : Int :=
  let guess : Int := (numerator.log2 : Int) - (denominator.log2 : Int)
  let reached :=
    if 0 ≤ guess then denominator * Nat.pow 2 guess.toNat ≤ numerator
    else denominator ≤ numerator * Nat.pow 2 (-guess).toNat
  if reached then guess else guess - 1

/-- The magnitude nearest to a quotient, a half going to the even pattern; quotients beyond the
finite magnitudes go to infinity. -/
def magnitudeOfRatio (numerator denominator : Nat) : Nat :=
  if numerator = 0 then 0
  else
    let exponent := max (floorLog2 numerator denominator - 52) (-1074)
    let significant :=
      if 0 ≤ exponent then halfEven numerator (denominator * Nat.pow 2 exponent.toNat)
      else halfEven (numerator * Nat.pow 2 (-exponent).toNat) denominator
    min infinite ((exponent + 1074).toNat * leadingWeight + significant)

def ofInt (value : Int) : Binary64 :=
  ofMagnitude (decide (value < 0)) (magnitudeOfRatio value.natAbs 1)

def ofNat (value : Nat) : Binary64 := ofInt value

def truncate (number : Binary64) : Int :=
  let (numerator, denominator) := ratio number.magnitude
  if number.negative then -((numerator / denominator : Nat) : Int)
  else ((numerator / denominator : Nat) : Int)

/-- The integer part, kept within the range of 64-bit integers; what is no number gives zero. -/
def toInt64 (number : Binary64) : Int64 :=
  if number.isNaN then 0
  else
    let limited :=
      if number.isInfinite then
        if number.negative then Int64.minValue.toInt else Int64.maxValue.toInt
      else max Int64.minValue.toInt (min Int64.maxValue.toInt number.truncate)
    Int64.ofInt limited

def mulMagnitude (left right : Nat) : Nat :=
  let (leftNumerator, leftDenominator) := ratio left
  let (rightNumerator, rightDenominator) := ratio right
  magnitudeOfRatio (leftNumerator * rightNumerator) (leftDenominator * rightDenominator)

def divMagnitude (left right : Nat) : Nat :=
  let (leftNumerator, leftDenominator) := ratio left
  let (rightNumerator, rightDenominator) := ratio right
  magnitudeOfRatio (leftNumerator * rightDenominator) (leftDenominator * rightNumerator)

/-- Equality of the numbers that two patterns stand for: the two zeros are one number, and what
is no number equals nothing. -/
def sameNumber (left right : Binary64) : Bool :=
  !left.isNaN && !right.isNaN &&
    (left == right || (left.magnitude == 0 && right.magnitude == 0))

end Binary64

end Telemetry
