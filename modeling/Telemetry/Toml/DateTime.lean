/-!
Dates and times of TOML documents: a date, a time of day, or both with an optional offset from the
universal time.
-/

namespace Telemetry.Toml

structure Date where
  year : Nat
  month : Nat
  day : Nat
deriving DecidableEq, Repr

/-- A time of day; the sixtieth second is a leap second. -/
structure Time where
  hour : Nat
  minute : Nat
  second : Nat
  /-- The digits of the fraction of the second. -/
  fraction : List Char
deriving DecidableEq, Repr

structure DateTime where
  date : Option Date
  time : Option Time
  /-- Minutes ahead of the universal time. -/
  offset : Option Int
deriving DecidableEq, Repr

def isLeapYear (year : Nat) : Bool := year % 4 == 0 && (year % 100 != 0 || year % 400 == 0)

def daysInMonth (year month : Nat) : Nat :=
  match month with
  | 2 => if isLeapYear year then 29 else 28
  | 4 | 6 | 9 | 11 => 30
  | _ => 31

namespace DateTime

/-- A number of exactly so many digits at the front of a text, within bounds. -/
def number? (digits least most : Nat) (text : List Char) : Option (Nat × List Char) :=
  let front := text.take digits
  if front.length = digits ∧ front.all Char.isDigit then
    let value := front.foldl (fun value digit => value * 10 + (digit.toNat - '0'.toNat)) 0
    if least ≤ value ∧ value ≤ most then some (value, text.drop digits) else none
  else none

def letter? (letter : Char) : List Char → Option (List Char)
  | first :: rest => if first = letter then some rest else none
  | [] => none

def date? (text : List Char) : Option (Date × List Char) := do
  let (year, rest) ← number? 4 0 9999 text
  let (month, rest) ← number? 2 1 12 (← letter? '-' rest)
  let (day, rest) ← number? 2 1 (daysInMonth year month) (← letter? '-' rest)
  return (⟨year, month, day⟩, rest)

def fraction (text : List Char) : List Char × List Char :=
  match text with
  | '.' :: rest =>
    let digits := rest.takeWhile Char.isDigit
    if digits.isEmpty then ([], text) else (digits, rest.dropWhile Char.isDigit)
  | _ => ([], text)

def time? (text : List Char) : Option (Time × List Char) := do
  let (hour, rest) ← number? 2 0 23 text
  let (minute, rest) ← number? 2 0 59 (← letter? ':' rest)
  let (second, rest) ← number? 2 0 60 (← letter? ':' rest)
  let (digits, rest) := fraction rest
  return (⟨hour, minute, second, digits⟩, rest)

/-- An offset, which may be missing. A sign without an offset after it is an error. -/
def offset? (text : List Char) : Option (Option Int × List Char) :=
  match text with
  | [] => some (none, [])
  | letter :: rest =>
    if letter = 'Z' ∨ letter = 'z' then some (some 0, rest)
    else if letter = '+' ∨ letter = '-' then do
      let (hours, rest) ← number? 2 0 23 rest
      let (minutes, rest) ← number? 2 0 59 (← letter? ':' rest)
      let size : Int := hours * 60 + minutes
      return (some (if letter = '-' then -size else size), rest)
    else some (none, text)

/-- A date or a time at the front of a text. A date goes on with a time after a letter or a
blank. -/
def read? (text : List Char) : Option (DateTime × List Char) :=
  match date? text with
  | none => (time? text).map fun (time, rest) => (⟨none, some time, none⟩, rest)
  | some (date, rest) =>
    let day : DateTime := ⟨some date, none, none⟩
    match rest with
    | [] => some (day, [])
    | mark :: later =>
      if mark = 'T' ∨ mark = 't' ∨ mark = ' ' then
        match time? later with
        | some (time, rest) =>
          (offset? rest).map fun (offset, rest) => (⟨some date, some time, offset⟩, rest)
        | none => some (day, rest)
      else some (day, rest)

end DateTime

end Telemetry.Toml
