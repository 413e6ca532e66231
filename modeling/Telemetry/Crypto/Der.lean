import Telemetry.Bytes
/-!
Tagged values in their distinguished encoding: a tag of one octet, a length in as few octets as
possible, and the content.
-/

namespace Telemetry.Crypto.Der

def integerTag : UInt8 := 0x02

def bitStringTag : UInt8 := 0x03

def octetStringTag : UInt8 := 0x04

def nullTag : UInt8 := 0x05

def identifierTag : UInt8 := 0x06

def sequenceTag : UInt8 := 0x30

/-- A length and what follows it: below 128 in one octet, otherwise preceded by the number of its
octets, of which there are no more than needed. -/
def length? : Bytes → Option (Nat × Bytes)
  | [] => none
  | first :: rest =>
    let short := first.toNat
    if short < 128 then some (short, rest)
    else
      let count := short - 128
      let value := Bytes.toNatBE (rest.take count)
      if count = 0 ∨ 4 < count ∨ rest.length < count then none
      else if value < 128 ∨ value < Nat.pow 256 (count - 1) then none
      else some (value, rest.drop count)

/-- The tag and content of the first value, and what follows it. -/
def value? : Bytes → Option (UInt8 × Bytes × Bytes)
  | [] => none
  | tag :: rest => do
    let (length, rest) ← length? rest
    if rest.length < length then none
    else return (tag, rest.take length, rest.drop length)

def tagged? (tag : UInt8) (octets : Bytes) : Option (Bytes × Bytes) := do
  let (found, content, rest) ← value? octets
  if found = tag then return (content, rest) else none

def only? (tag : UInt8) (octets : Bytes) : Option Bytes := do
  match ← tagged? tag octets with
  | (content, []) => return content
  | _ => none

/-- An integer that is not negative, in as few octets as possible. -/
def natural? (octets : Bytes) : Option (Nat × Bytes) := do
  let (content, rest) ← tagged? integerTag octets
  match content with
  | [] => none
  | [single] => if single.toNat < 128 then return (single.toNat, rest) else none
  | first :: second :: _ =>
    if 128 ≤ first.toNat ∨ (first = 0 ∧ second.toNat < 128) then none
    else return (Bytes.toNatBE content, rest)

def naturals? : (count : Nat) → Bytes → Option (List Nat × Bytes)
  | 0, octets => some ([], octets)
  | count + 1, octets => do
    let (value, rest) ← natural? octets
    let (values, after) ← naturals? count rest
    return (value :: values, after)

end Telemetry.Crypto.Der
