import Telemetry.Bytes
/-!
Integers as text: an optional sign and decimal digits, to the end of the text. The first trouble
from the left decides what is wrong with a text.
-/

namespace Telemetry.Integer

inductive ReadError where
  | empty
  | invalidDigit
  | tooLarge
  | tooSmall
deriving DecidableEq, Repr

def ReadError.message : ReadError → String
  | .empty => "cannot parse integer from empty string"
  | .invalidDigit => "invalid digit found in string"
  | .tooLarge => "number too large to fit in target type"
  | .tooSmall => "number too small to fit in target type"

/-- The number of integers that are not negative, among those of 64 bits. -/
def int64Bound : Nat := 0x8000000000000000

/-- The value of digits that continue a number, which may not exceed `limit`. -/
def readDigits (limit : Nat) (overflow : ReadError) : Nat → List Char → Except ReadError Nat
  | value, [] => .ok value
  | value, digit :: rest =>
    if digit.isDigit then
      let next := value * 10 + (digit.toNat - '0'.toNat)
      if next ≤ limit then readDigits limit overflow next rest else .error overflow
    else .error .invalidDigit

def readInt64 (text : String) : Except ReadError Int64 :=
  match text.toList with
  | [] => .error .empty
  | ['+'] | ['-'] => .error .invalidDigit
  | '-' :: digits =>
    (readDigits int64Bound .tooSmall 0 digits).map fun size => Int64.ofInt (-(size : Int))
  | '+' :: digits =>
    (readDigits (int64Bound - 1) .tooLarge 0 digits).map fun size => Int64.ofInt size
  | digits => (readDigits (int64Bound - 1) .tooLarge 0 digits).map fun size => Int64.ofInt size

/-- An integer without a minus sign that does not exceed `limit`. -/
def readNat (limit : Nat) (text : String) : Except ReadError Nat :=
  match text.toList with
  | [] => .error .empty
  | ['+'] | ['-'] => .error .invalidDigit
  | '+' :: digits => readDigits limit .tooLarge 0 digits
  | digits => readDigits limit .tooLarge 0 digits

def text (value : Int) : String :=
  if value < 0 then "-" ++ Nat.repr value.natAbs else Nat.repr value.natAbs

end Telemetry.Integer
