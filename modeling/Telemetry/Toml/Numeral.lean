import Telemetry.Binary64.Text
import Telemetry.Net.Address
/-!
Numbers of TOML documents. Digits may be separated by single underscores. Integers have 64 bits
with a sign, and may be written to the bases 16, 8 and 2; other numbers have a fraction or an
exponent, or are infinite or none.
-/

namespace Telemetry.Toml

/-- Digits and underscores between them, as far as they go; an underscore needs a digit on either
side. The result has the digits only. -/
def moreDigits? (radix : Nat) : (done : List Char) → List Char → Option (List Char × List Char)
  | done, [] => some (done.reverse, [])
  | done, letter :: rest =>
    if (Net.Address.digit? radix letter).isSome then moreDigits? radix (letter :: done) rest
    else if letter = '_' then
      match rest with
      | digit :: _ =>
        if (Net.Address.digit? radix digit).isSome then moreDigits? radix done rest else none
      | [] => none
    else some (done.reverse, letter :: rest)

def digits? (radix : Nat) (text : List Char) : Option (List Char × List Char) :=
  match text with
  | [] => none
  | digit :: rest =>
    if (Net.Address.digit? radix digit).isSome then moreDigits? radix [digit] rest else none

def sign (text : List Char) : Bool × List Char :=
  match text with
  | '-' :: rest => (true, rest)
  | '+' :: rest => (false, rest)
  | rest => (false, rest)

/-- The whole part of a number: a zero, or digits that do not begin with one. -/
def whole? (text : List Char) : Option (List Char × List Char) :=
  match text with
  | '0' :: rest => some (['0'], rest)
  | _ => digits? 10 text

def digitsValue (radix : Nat) (digits : List Char) : Nat :=
  digits.foldl (fun value digit => value * radix + (Net.Address.digit? radix digit).getD 0) 0

def integerWithin? (value : Int) : Option Int :=
  if Int64.minValue.toInt ≤ value ∧ value ≤ Int64.maxValue.toInt then some value else none

def radixInteger? (radix : Nat) (text : List Char) : Option (Int × List Char) := do
  let (digits, rest) ← digits? radix text
  let value ← integerWithin? (digitsValue radix digits)
  return (value, rest)

def integer? (text : List Char) : Option (Int × List Char) :=
  match text with
  | '0' :: 'x' :: rest => radixInteger? 16 rest
  | '0' :: 'o' :: rest => radixInteger? 8 rest
  | '0' :: 'b' :: rest => radixInteger? 2 rest
  | _ => do
    let (isNegative, body) := sign text
    let (digits, rest) ← whole? body
    let size : Int := digitsValue 10 digits
    let value ← integerWithin? (if isNegative then -size else size)
    return (value, rest)

def exponent? (text : List Char) : Option (List Char × List Char) :=
  match text with
  | [] => some ([], [])
  | mark :: rest =>
    if mark = 'e' ∨ mark = 'E' then do
      let (isNegative, body) := sign rest
      let (digits, rest) ← digits? 10 body
      return ('e' :: (if isNegative then '-' :: digits else digits), rest)
    else some ([], text)

def specialFloat? (isNegative : Bool) : List Char → Option (Binary64 × List Char)
  | 'i' :: 'n' :: 'f' :: rest => some (.infinity isNegative, rest)
  | 'n' :: 'a' :: 'n' :: rest => some (.nan, rest)
  | _ => none

/-- A number with a fraction or an exponent, or one of the names. One that is too large to be
finite is an error. -/
def float? (text : List Char) : Option (Binary64 × List Char) :=
  let (isNegative, body) := sign text
  match whole? body with
  | none => specialFloat? isNegative body
  | some (whole, rest) => do
    let (fraction, rest) ← match rest with
      | '.' :: after => (digits? 10 after).map fun (digits, rest) => ('.' :: digits, rest)
      | other => some ([], other)
    let (exponent, rest) ← exponent? rest
    if fraction.isEmpty && exponent.isEmpty then none
    else
      let written := String.ofList (whole ++ fraction ++ exponent)
      let number ← (Binary64.ofText (if isNegative then "-" ++ written else written)).toOption
      if number.isInfinite && !isNegative then none else return (number, rest)

end Telemetry.Toml
