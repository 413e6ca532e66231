import Telemetry.Json.Basic
/-!
The tokens of a JSON document. A scanner reads one octet at a time, so that what it has read is
a fold over the document; no look-ahead is needed, because a numeral that ends is handed over
when the octet after it arrives.
-/

namespace Telemetry.Json

inductive Token where
  | openArray
  | closeArray
  | openObject
  | closeObject
  | comma
  | colon
  | null
  | bool (value : Bool)
  | number (numeral : Numeral)
  | string (text : Option String)
deriving DecidableEq, Repr

/-- A text in quotes that is being read. Its octets are in reverse; an escape that is the high
half of a surrogate pair waits for its low half, which has to come next. -/
structure Passage where
  octets : Bytes
  high : Option Nat
  /-- Whether no half of a pair was met on its own. -/
  sound : Bool
deriving DecidableEq, Repr

namespace Passage

def start : Passage := ⟨[], none, true⟩

def isHigh (unit : Nat) : Bool := 0xD800 ≤ unit && unit < 0xDC00

def isLow (unit : Nat) : Bool := 0xDC00 ≤ unit && unit < 0xE000

def join (high low : Nat) : Nat := 0x10000 + (high - 0xD800) * 0x400 + (low - 0xDC00)

def pushCode (passage : Passage) (code : Nat) : Passage :=
  { passage with
    octets := (String.utf8EncodeChar (Char.ofNat code)).reverse ++ passage.octets }

def pushOctet (passage : Passage) (octet : UInt8) : Passage :=
  ⟨octet :: passage.octets, none, passage.sound && passage.high.isNone⟩

def pushUnit (passage : Passage) (unit : Nat) : Passage :=
  if isHigh unit then
    { passage with high := some unit, sound := passage.sound && passage.high.isNone }
  else if isLow unit then
    match passage.high with
    | some high => { passage.pushCode (join high unit) with high := none }
    | none => { passage with sound := false }
  else
    { passage.pushCode unit with high := none, sound := passage.sound && passage.high.isNone }

def text? (passage : Passage) : Option String :=
  if passage.sound && passage.high.isNone then Bytes.text? passage.octets.reverse else none

end Passage

/-- How far a numeral has been read. -/
inductive Place where
  | sign
  | zero
  | whole
  | point
  | fraction
  | mark
  | powerSign
  | power
deriving DecidableEq, Repr

/-- A numeral that is being read; its digits are in reverse. -/
structure Draft where
  place : Place
  negative : Bool
  whole : List Digit
  fraction : List Digit
  powerNegative : Bool
  power : List Digit
deriving DecidableEq, Repr

namespace Draft

def start (place : Place) (negative : Bool) (whole : List Digit) : Draft :=
  ⟨place, negative, whole, [], false, []⟩

def finish? (draft : Draft) : Option Numeral :=
  match draft.place with
  | .zero | .whole | .fraction =>
    some ⟨draft.negative, draft.whole.reverse, draft.fraction.reverse, none⟩
  | .power =>
    let size : Int := Numeral.digitsValue draft.power.reverse
    some ⟨draft.negative, draft.whole.reverse, draft.fraction.reverse,
      some (if draft.powerNegative then -size else size)⟩
  | .sign | .point | .mark | .powerSign => none

def push? (draft : Draft) (octet : UInt8) : Option Draft :=
  match Numeral.digitOfOctet? octet with
  | some digit =>
    match draft.place with
    | .sign =>
      some { draft with place := if digit.val = 0 then .zero else .whole, whole := [digit] }
    | .zero => none
    | .whole => some { draft with whole := digit :: draft.whole }
    | .point | .fraction =>
      some { draft with place := .fraction, fraction := digit :: draft.fraction }
    | .mark | .powerSign | .power =>
      some { draft with place := .power, power := digit :: draft.power }
  | none =>
    if octet = Bytes.ascii '.' then
      match draft.place with
      | .zero | .whole => some { draft with place := .point }
      | _ => none
    else if octet = Bytes.ascii 'e' || octet = Bytes.ascii 'E' then
      match draft.place with
      | .zero | .whole | .fraction => some { draft with place := .mark }
      | _ => none
    else if octet = Bytes.ascii '+' || octet = Bytes.ascii '-' then
      match draft.place with
      | .mark =>
        some { draft with place := .powerSign, powerNegative := octet = Bytes.ascii '-' }
      | _ => none
    else none

end Draft

inductive Inside where
  | nothing
  | word (rest : Bytes) (token : Token)
  | numeral (draft : Draft)
  | text (passage : Passage)
  | escape (passage : Passage)
  | code (passage : Passage) (digits : Nat) (value : Nat)
deriving Repr

structure Scanner where
  inside : Inside
  /-- The finished tokens, in reverse. -/
  tokens : List Token
deriving Repr

namespace Scanner

def start : Scanner := ⟨.nothing, []⟩

def isBlank (octet : UInt8) : Bool :=
  octet == 0x20 || octet == 0x09 || octet == 0x0A || octet == 0x0D

/-- A token that begins, and possibly ends, with an octet outside of all tokens. -/
def begin? (tokens : List Token) (octet : UInt8) : Option Scanner :=
  let single (token : Token) : Option Scanner := some ⟨.nothing, token :: tokens⟩
  if isBlank octet then some ⟨.nothing, tokens⟩
  else if octet = Bytes.ascii '"' then some ⟨.text .start, tokens⟩
  else if octet = Bytes.ascii ',' then single .comma
  else if octet = Bytes.ascii ':' then single .colon
  else if octet = Bytes.ascii '[' then single .openArray
  else if octet = Bytes.ascii ']' then single .closeArray
  else if octet = Bytes.ascii '\x7b' then single .openObject
  else if octet = Bytes.ascii '\x7d' then single .closeObject
  else if octet = Bytes.ascii '-' then some ⟨.numeral (.start .sign true []), tokens⟩
  else if octet = Bytes.ascii 'n' then
    some ⟨.word (['u', 'l', 'l'].map Bytes.ascii) .null, tokens⟩
  else if octet = Bytes.ascii 't' then
    some ⟨.word (['r', 'u', 'e'].map Bytes.ascii) (.bool true), tokens⟩
  else if octet = Bytes.ascii 'f' then
    some ⟨.word (['a', 'l', 's', 'e'].map Bytes.ascii) (.bool false), tokens⟩
  else
    match Numeral.digitOfOctet? octet with
    | some digit =>
      some ⟨.numeral (.start (if digit.val = 0 then .zero else .whole) false [digit]), tokens⟩
    | none => none

def escaped? (octet : UInt8) : Option UInt8 :=
  if octet = Bytes.ascii '"' then some octet
  else if octet = Bytes.ascii '\\' then some octet
  else if octet = Bytes.ascii '/' then some octet
  else if octet = Bytes.ascii 'b' then some 0x08
  else if octet = Bytes.ascii 'f' then some 0x0C
  else if octet = Bytes.ascii 'n' then some 0x0A
  else if octet = Bytes.ascii 'r' then some 0x0D
  else if octet = Bytes.ascii 't' then some 0x09
  else none

def hexDigit? (octet : UInt8) : Option Nat :=
  let code := octet.toNat
  if 48 ≤ code ∧ code < 58 then some (code - 48)
  else if 97 ≤ code ∧ code < 103 then some (code - 87)
  else if 65 ≤ code ∧ code < 71 then some (code - 55)
  else none

def step (scanner : Scanner) (octet : UInt8) : Option Scanner :=
  match scanner.inside with
  | .nothing => begin? scanner.tokens octet
  | .word [] token => begin? (token :: scanner.tokens) octet
  | .word [last] token =>
    if octet = last then some ⟨.nothing, token :: scanner.tokens⟩ else none
  | .word (next :: rest) token =>
    if octet = next then some { scanner with inside := .word rest token } else none
  | .numeral draft =>
    match draft.push? octet with
    | some longer => some { scanner with inside := .numeral longer }
    | none =>
      match draft.finish? with
      | some numeral => begin? (.number numeral :: scanner.tokens) octet
      | none => none
  | .text passage =>
    if octet = Bytes.ascii '"' then some ⟨.nothing, .string passage.text? :: scanner.tokens⟩
    else if octet = Bytes.ascii '\\' then some { scanner with inside := .escape passage }
    else if octet.toNat < 0x20 then none
    else some { scanner with inside := .text (passage.pushOctet octet) }
  | .escape passage =>
    if octet = Bytes.ascii 'u' then some { scanner with inside := .code passage 0 0 }
    else (escaped? octet).map fun value =>
      { scanner with inside := .text (passage.pushOctet value) }
  | .code passage digits value =>
    (hexDigit? octet).map fun digit =>
      let longer := value * 16 + digit
      if digits = 3 then { scanner with inside := .text (passage.pushUnit longer) }
      else { scanner with inside := .code passage (digits + 1) longer }

def finish? (scanner : Scanner) : Option (List Token) :=
  match scanner.inside with
  | .nothing => some scanner.tokens.reverse
  | .numeral draft =>
    draft.finish?.map fun numeral => (Token.number numeral :: scanner.tokens).reverse
  | .word .. | .text .. | .escape .. | .code .. => none

end Scanner

def scanFrom (scanner : Scanner) (octets : Bytes) : Option Scanner :=
  octets.foldlM Scanner.step scanner

def tokens? (document : Bytes) : Option (List Token) :=
  (scanFrom .start document).bind Scanner.finish?

end Telemetry.Json
