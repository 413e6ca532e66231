import Telemetry.Binary64.Decimal
/-!
The plain text of a number: what people type and what listings show.

Plain text has no exponent when it is written and may have one when it is read. Reading rounds
once, to the nearest number. `inf`, `infinity` and `nan` are read in any letter case.
-/

namespace Telemetry.Binary64

inductive ReadError where
  | empty
  | invalid
deriving DecidableEq, Repr

def ReadError.message : ReadError → String
  | .empty => "cannot parse float from empty string"
  | .invalid => "invalid float literal"

/-- Plain text never uses an exponent, writes whole numbers without a point, and of two equally
near shortest decimals takes the greater. -/
def plainLayout : Decimal.Layout := ⟨fun _ => true, false, .up⟩

def plainText (number : Binary64) : String :=
  if number.isNaN then "NaN"
  else
    let body :=
      if number.isInfinite then ['i', 'n', 'f']
      else (Decimal.shortest plainLayout.tie number.magnitude).text plainLayout
    String.ofList (if number.negative then '-' :: body else body)

def digitsValue (start : Nat) (digits : List Char) : Nat :=
  digits.foldl (fun value digit => value * 10 + (digit.toNat - '0'.toNat)) start

/-- The power of ten that stands after an exponent mark, which needs at least one digit and
ends the text. -/
def readExponent? (text : List Char) : Option Int :=
  let (minus, digits) := match text with
    | '-' :: rest => (true, rest)
    | '+' :: rest => (false, rest)
    | rest => (false, rest)
  if digits.isEmpty || !digits.all Char.isDigit then none
  else
    let power : Int := digitsValue 0 digits
    some (if minus then -power else power)

/-- A decimal without a sign: digits with at most one point among or beside them, at least one
digit in all, then at most one exponent. -/
def readDecimal? (text : List Char) : Option Decimal :=
  let whole := text.takeWhile Char.isDigit
  let afterWhole := text.dropWhile Char.isDigit
  let (fraction, rest) := match afterWhole with
    | '.' :: tail => (tail.takeWhile Char.isDigit, tail.dropWhile Char.isDigit)
    | other => ([], other)
  if whole.isEmpty && fraction.isEmpty then none
  else
    let coefficient := digitsValue (digitsValue 0 whole) fraction
    let places : Int := fraction.length
    match rest with
    | [] => some ⟨coefficient, -places⟩
    | mark :: tail =>
      if mark == 'e' || mark == 'E' then
        (readExponent? tail).map fun power => ⟨coefficient, power - places⟩
      else none

def ofText (text : String) : Except ReadError Binary64 :=
  match text.toList with
  | [] => .error .empty
  | first :: tail =>
    let (minus, body) :=
      if first == '-' then (true, tail)
      else if first == '+' then (false, tail)
      else (false, first :: tail)
    match readDecimal? body with
    | some decimal => .ok (decimal.toBinary64 minus)
    | none =>
      let word := String.ofList (body.map Char.toLower)
      if word == "inf" || word == "infinity" then .ok (infinity minus)
      else if word == "nan" then .ok nan
      else .error .invalid

end Telemetry.Binary64
