import Telemetry.Binary64.Basic
/-!
Decimal numbers and the binary numbers nearest to them.

`Decimal.magnitude` rounds a decimal once, and `Decimal.shortest` finds, for a finite magnitude,
a decimal with the fewest digits that rounds back to it and, of two such decimals, the nearer
one. The search needs no bound on its length to be right: a decimal is returned only after it was
rounded and compared, and the last resort is the exact value.
-/

namespace Telemetry

/-- The number `coefficient · 10 ^ exponent`. -/
structure Decimal where
  coefficient : Nat
  exponent : Int
deriving DecidableEq, Repr

namespace Decimal

/-- The magnitude nearest to a decimal. Exponents that lie far outside the range of magnitudes
are decided by their size alone. -/
def magnitude (decimal : Decimal) : Nat :=
  if decimal.coefficient = 0 then 0
  else if 400 < decimal.exponent then Binary64.infinite
  else if decimal.exponent < -(401 + decimal.coefficient.log2 : Int) then 0
  else if 0 ≤ decimal.exponent then
    Binary64.magnitudeOfRatio (decimal.coefficient * Nat.pow 10 decimal.exponent.toNat) 1
  else
    Binary64.magnitudeOfRatio decimal.coefficient (Nat.pow 10 (-decimal.exponent).toNat)

def toBinary64 (negative : Bool) (decimal : Decimal) : Binary64 :=
  Binary64.ofMagnitude negative decimal.magnitude

/-- Which of two equally near decimals of the same length is taken. -/
inductive Tie where
  | even
  | up
deriving DecidableEq, Repr

/-- The greatest power of ten that does not exceed a positive quotient, found from an estimate
that is at most one too low. -/
def floorLog10 (numerator denominator : Nat) : Int :=
  let estimate : Int := (Binary64.floorLog2 numerator denominator * 30103) / 100000
  let reached (power : Int) : Bool :=
    if 0 ≤ power then decide (denominator * Nat.pow 10 power.toNat ≤ numerator)
    else decide (denominator ≤ numerator * Nat.pow 10 (-power).toNat)
  if reached (estimate + 1) then estimate + 1
  else if reached estimate then estimate
  else estimate - 1

def stripZeros (decimal : Decimal) : Decimal :=
  if positive : decimal.coefficient = 0 then ⟨0, 0⟩
  else if decimal.coefficient % 10 = 0 then
    stripZeros ⟨decimal.coefficient / 10, decimal.exponent + 1⟩
  else decimal
termination_by decimal.coefficient
decreasing_by exact Nat.div_lt_self (Nat.pos_of_ne_zero positive) (by decide)

/-- The decimal on the grid of step `10 ^ exponent` that rounds back to `target` and is nearest
to the quotient: of its two neighbours on the grid the nearer that rounds back. -/
def onGrid? (tie : Tie) (numerator denominator target : Nat) (exponent : Int) :
    Option Decimal :=
  let (scaledNumerator, scaledDenominator) :=
    if 0 ≤ exponent then (numerator, denominator * Nat.pow 10 exponent.toNat)
    else (numerator * Nat.pow 10 (-exponent).toNat, denominator)
  let floor := scaledNumerator / scaledDenominator
  let rest := 2 * (scaledNumerator % scaledDenominator)
  let below : Decimal := ⟨floor, exponent⟩
  let above : Decimal := ⟨floor + 1, exponent⟩
  let upward := decide (scaledDenominator < rest) ||
    (rest == scaledDenominator && (match tie with
      | .even => floor % 2 == 1
      | .up => true))
  let (near, far) := if upward then (above, below) else (below, above)
  if near.magnitude = target then some near
  else if far.magnitude = target then some far
  else none

/-- Tries grids with `length`, `length + 1`, … digits, `tries` of them. -/
def search (tie : Tie) (numerator denominator target : Nat) (leading : Int) :
    (tries length : Nat) → Option Decimal
  | 0, _ => none
  | tries + 1, length =>
    match onGrid? tie numerator denominator target (leading + 1 - length) with
    | some decimal => some decimal
    | none => search tie numerator denominator target leading tries (length + 1)

def exact (magnitude : Nat) : Decimal :=
  let shift := Binary64.scale magnitude
  if 1074 ≤ shift then ⟨Binary64.significand magnitude * Nat.pow 2 (shift - 1074), 0⟩
  else ⟨Binary64.significand magnitude * Nat.pow 5 (1074 - shift), -((1074 - shift : Nat) : Int)⟩

/-- The shortest decimal that rounds back to a finite magnitude; seventeen digits are enough. -/
def shortest (tie : Tie) (magnitude : Nat) : Decimal :=
  if magnitude = 0 then ⟨0, 0⟩
  else
    let (numerator, denominator) := Binary64.ratio magnitude
    let leading := floorLog10 numerator denominator
    match search tie numerator denominator magnitude leading 17 1 with
    | some decimal => stripZeros decimal
    | none => stripZeros (exact magnitude)

def digits (decimal : Decimal) : List Char := Nat.toDigits 10 decimal.coefficient

def leading (decimal : Decimal) : Int := decimal.exponent + decimal.digits.length - 1

structure Layout where
  /-- Whether a number whose first digit has this power of ten is written without an exponent. -/
  positional : Int → Bool
  /-- Whether a whole number written without an exponent ends in a point and a zero. -/
  pointZero : Bool
  tie : Tie

/-- The digits with the point among them, or with zeros up to it. -/
def positionalText (pointZero : Bool) (decimal : Decimal) : List Char :=
  let digits := decimal.digits
  if 0 ≤ decimal.exponent then
    digits ++ List.replicate decimal.exponent.toNat '0' ++
      (if pointZero then ['.', '0'] else [])
  else
    let places := (-decimal.exponent).toNat
    if places < digits.length then
      digits.take (digits.length - places) ++ '.' :: digits.drop (digits.length - places)
    else '0' :: '.' :: (List.replicate (places - digits.length) '0' ++ digits)

/-- One digit, the others after a point, and the power of ten with its sign. -/
def exponentText (decimal : Decimal) : List Char :=
  let power := decimal.leading
  let mantissa := match decimal.digits with
    | [] => []
    | [digit] => [digit]
    | digit :: others => digit :: '.' :: others
  mantissa ++ 'e' :: (if power < 0 then '-' else '+') :: Nat.toDigits 10 power.natAbs

def text (layout : Layout) (decimal : Decimal) : List Char :=
  if layout.positional decimal.leading then positionalText layout.pointZero decimal
  else exponentText decimal

end Decimal

end Telemetry
