import Telemetry.Text.Blank
/-!
Internet addresses of both families and their textual forms.

The dotted form has four numbers of at most three digits; the colon form has eight groups of at
most four hexadecimal digits, of which one run may be left out between two colons and the last
two may be written in the dotted form. Two dialects differ in what they forgive.
-/

namespace Telemetry.Net

inductive Address where
  | v4 (bits : BitVec 32)
  | v6 (bits : BitVec 128)
deriving DecidableEq, Repr

/-- What a reader of addresses forgives. -/
structure Dialect where
  /-- Whether the numbers of a dotted form may begin with zeros. -/
  leadingZeros : Bool
  /-- Whether two colons may stand for no group at all. -/
  emptyGap : Bool

namespace Dialect

/-- The dialect of single addresses. -/
def strict : Dialect := ⟨false, false⟩

/-- The dialect of addresses within the text of a subnet. -/
def lenient : Dialect := ⟨true, true⟩

end Dialect

namespace Address

def hexDigit? (letter : Char) : Option Nat :=
  let code := letter.toNat
  if 48 ≤ code ∧ code < 58 then some (code - 48)
  else if 97 ≤ code ∧ code < 103 then some (code - 87)
  else if 65 ≤ code ∧ code < 71 then some (code - 55)
  else none

def digit? (radix : Nat) (letter : Char) : Option Nat :=
  (hexDigit? letter).filter (· < radix)

/-- The number at the front of a text: all digits there are, at least one and at most `most`. -/
def readNumber? (radix most limit : Nat) (leadingZeros : Bool) (text : List Char) :
    Option (Nat × List Char) :=
  let digits := text.takeWhile fun letter => (digit? radix letter).isSome
  let rest := text.dropWhile fun letter => (digit? radix letter).isSome
  if digits.isEmpty || most < digits.length then none
  else if !leadingZeros && digits.head? == some '0' && 1 < digits.length then none
  else
    let value := digits.foldl (fun value letter => value * radix + (digit? radix letter).getD 0) 0
    if value < limit then some (value, rest) else none

def readLetter? (letter : Char) : List Char → Option (List Char)
  | first :: rest => if first = letter then some rest else none
  | [] => none

/-- The dotted form at the front of a text, as a number of 32 bits. -/
def readDotted? (dialect : Dialect) (text : List Char) : Option (Nat × List Char) := do
  let number := readNumber? 10 3 256 dialect.leadingZeros
  let (first, rest) ← number text
  let (second, rest) ← number (← readLetter? '.' rest)
  let (third, rest) ← number (← readLetter? '.' rest)
  let (fourth, rest) ← number (← readLetter? '.' rest)
  return (((first * 256 + second) * 256 + third) * 256 + fourth, rest)

/-- A run of groups separated by colons, at most `room` of them, as far as it goes; the last two
may be in the dotted form, which ends the run. `isFirst` says that no colon comes before. -/
def readGroups (dialect : Dialect) : (room : Nat) → (isFirst : Bool) → List Char →
    List Nat × Bool × List Char
  | 0, _, text => ([], false, text)
  | room + 1, isFirst, text =>
    let start := if isFirst then some text else readLetter? ':' text
    let dotted := if room = 0 then none else start.bind (readDotted? dialect)
    match dotted with
    | some (value, rest) => ([value / 65536, value % 65536], true, rest)
    | none =>
      match start.bind (readNumber? 16 4 65536 true) with
      | some (group, rest) =>
        let (groups, closed, after) := readGroups dialect room false rest
        (group :: groups, closed, after)
      | none => ([], false, text)

def ofGroups (groups : List Nat) : BitVec 128 :=
  BitVec.ofNat 128 (groups.foldl (fun value group => value * 65536 + group) 0)

def readColons? (dialect : Dialect) (text : List Char) : Option (BitVec 128 × List Char) :=
  let (front, closed, rest) := readGroups dialect 8 true text
  if front.length = 8 then some (ofGroups front, rest)
  else if closed then none
  else do
    let rest ← readLetter? ':' rest
    let rest ← readLetter? ':' rest
    let room := if dialect.emptyGap then 8 - front.length else 7 - front.length
    let (back, _, rest) := readGroups dialect room true rest
    let gap := List.replicate (8 - front.length - back.length) 0
    return (ofGroups (front ++ gap ++ back), rest)

def read? (dialect : Dialect) (text : List Char) : Option (Address × List Char) :=
  match readDotted? dialect text with
  | some (value, rest) => some (.v4 (BitVec.ofNat 32 value), rest)
  | none => (readColons? dialect text).map fun (bits, rest) => (.v6 bits, rest)

def ofText? (text : String) : Option Address :=
  match read? .strict text.toList with
  | some (address, []) => some address
  | _ => none

end Address

end Telemetry.Net
