import Telemetry.Binary64.Decimal
import Telemetry.Text.Integer
/-!
The numerals of JSON, as written: digits before and after the point and a power of ten.

`Numeral.toBinary64?` is the reading this library gives them. The digits that fit an unsigned
64-bit integer are taken as that integer, which is rounded once; it is then multiplied or divided
by a power of ten that was rounded beforehand, in steps of at most 308. Hence a numeral of few
digits and a small power is read exactly rounded, and a long one may be read a unit away.
-/

namespace Telemetry.Json

abbrev Digit := Fin 10

structure Numeral where
  negative : Bool
  whole : List Digit
  /-- The digits after the point; empty when there is no point. -/
  fraction : List Digit
  /-- The power of ten after the exponent mark, if there is a mark. -/
  power : Option Int
deriving DecidableEq, Repr

namespace Numeral

def isIntegral (numeral : Numeral) : Bool :=
  numeral.fraction.isEmpty && numeral.power.isNone

/-- Extends a significand by whole digits while it fits 64 bits; the second number counts the
digits that were left out. -/
def takeWhole (significand : Nat) : List Digit → Nat × Nat
  | [] => (significand, 0)
  | digit :: rest =>
    let next := significand * 10 + digit.val
    if next < UInt64.size then takeWhole next rest else (significand, rest.length + 1)

/-- Extends a significand by digits after the point while it fits 64 bits; the second number
counts the digits that were taken. -/
def takeFraction (significand : Nat) : List Digit → Nat × Nat
  | [] => (significand, 0)
  | digit :: rest =>
    let next := significand * 10 + digit.val
    if next < UInt64.size then
      let (final, taken) := takeFraction next rest
      (final, taken + 1)
    else (significand, 0)

/-- The significand of at most 64 bits and the power of ten it stands at. -/
def significand (numeral : Numeral) : Nat × Int :=
  let (whole, dropped) := takeWhole 0 numeral.whole
  let (all, taken) := takeFraction whole numeral.fraction
  (all, (dropped : Int) - (taken : Int))

def powerOfTen (power : Nat) : Nat := Decimal.magnitude ⟨1, power⟩

/-- Divides by ten to the power of `places`, in steps of at most 308. -/
def scaleDown (magnitude places : Nat) : Nat :=
  if many : 308 < places then
    if magnitude = 0 then 0
    else scaleDown (Binary64.divMagnitude magnitude (powerOfTen 308)) (places - 308)
  else Binary64.divMagnitude magnitude (powerOfTen places)
termination_by places
decreasing_by omega

/-- Multiplies by a power of ten; there is no result beyond the finite numbers. -/
def scaleUp? (magnitude places : Nat) : Option Nat :=
  if 308 < places then (if magnitude = 0 then some 0 else none)
  else
    let scaled := Binary64.mulMagnitude magnitude (powerOfTen places)
    if scaled < Binary64.infinite then some scaled else none

def toBinary64? (numeral : Numeral) : Option Binary64 :=
  let (significand, place) := numeral.significand
  let exponent := place + numeral.power.getD 0
  let rounded := Binary64.magnitudeOfRatio significand 1
  let magnitude? :=
    if 0 ≤ exponent then scaleUp? rounded exponent.toNat
    else some (scaleDown rounded (-exponent).toNat)
  magnitude?.map (Binary64.ofMagnitude numeral.negative)

def digitsValue (digits : List Digit) : Nat :=
  digits.foldl (fun value digit => value * 10 + digit.val) 0

/-- A numeral without point and power is an integer when it fits 64 bits; minus zero is none. -/
def toInt64? (numeral : Numeral) : Option Int64 :=
  if numeral.isIntegral then
    let size := digitsValue numeral.whole
    if numeral.negative then
      if 0 < size ∧ size ≤ Integer.int64Bound then some (Int64.ofInt (-(size : Int))) else none
    else if size < Integer.int64Bound then some (Int64.ofInt size)
    else none
  else none

def digitsOf (value : Nat) : List Digit :=
  if small : value < 10 then [⟨value, small⟩]
  else digitsOf (value / 10) ++ [⟨value % 10, Nat.mod_lt _ (by decide)⟩]
termination_by value
decreasing_by omega

def ofInt (value : Int) : Numeral :=
  ⟨decide (value < 0), digitsOf value.natAbs, [], none⟩

/-- The numeral of a decimal: from the first digit at a power of -5 to one at 15 it is written
without a power of ten and with at least one digit after the point; otherwise as one digit, the
others after a point, and a power. -/
def ofDecimal (negative : Bool) (decimal : Decimal) : Numeral :=
  let digits := digitsOf decimal.coefficient
  let leading := decimal.exponent + digits.length - 1
  if -5 ≤ leading ∧ leading < 16 then
    if 0 ≤ decimal.exponent then
      ⟨negative, digits ++ List.replicate decimal.exponent.toNat 0, [0], none⟩
    else
      let places := (-decimal.exponent).toNat
      if places < digits.length then
        ⟨negative, digits.take (digits.length - places),
          digits.drop (digits.length - places), none⟩
      else ⟨negative, [0], List.replicate (places - digits.length) 0 ++ digits, none⟩
  else ⟨negative, digits.take 1, digits.drop 1, some leading⟩

/-- The numeral of a finite number: its shortest decimal, of two equally near the even one. -/
def ofBinary64 (number : Binary64) : Numeral :=
  ofDecimal number.negative (Decimal.shortest .even number.magnitude)

def octetOfDigit (digit : Digit) : UInt8 := UInt8.ofNat (48 + digit.val)

def digitOfOctet? (octet : UInt8) : Option Digit :=
  if range : 48 ≤ octet.toNat ∧ octet.toNat < 58 then some ⟨octet.toNat - 48, by omega⟩
  else none

def write (numeral : Numeral) : Bytes :=
  (if numeral.negative then [Bytes.ascii '-'] else []) ++
    numeral.whole.map octetOfDigit ++
    (if numeral.fraction.isEmpty then []
      else Bytes.ascii '.' :: numeral.fraction.map octetOfDigit) ++
    match numeral.power with
    | none => []
    | some power =>
      Bytes.ascii 'e' :: Bytes.ascii (if power < 0 then '-' else '+') ::
        (digitsOf power.natAbs).map octetOfDigit

end Numeral

end Telemetry.Json
