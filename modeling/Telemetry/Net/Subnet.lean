import Telemetry.Net.Address
/-!
Subnets: the addresses of one family that agree with a base address in their first bits. The
other bits of the base do not matter.
-/

namespace Telemetry.Net

inductive Subnet where
  | v4 (base : BitVec 32) (length : Nat)
  | v6 (base : BitVec 128) (length : Nat)
deriving DecidableEq, Repr

namespace Subnet

/-- Whether two addresses of one family agree in the first `length` bits. -/
def agree {width : Nat} (length : Nat) (left right : BitVec width) : Bool :=
  left >>> (width - length) == right >>> (width - length)

def contains : Subnet → Address → Bool
  | .v4 base length, .v4 bits => agree length base bits
  | .v6 base length, .v6 bits => agree length base bits
  | _, _ => false

/-- An address, a slash and a length within the width of the family. -/
def ofText? (text : String) : Option Subnet := do
  let letters := text.toList
  let length? (most limit : Nat) (rest : List Char) : Option Nat := do
    match ← Address.readNumber? 10 most limit true (← Address.readLetter? '/' rest) with
    | (length, []) => some length
    | _ => none
  match Address.readDotted? .lenient letters with
  | some (value, rest) =>
    match length? 2 33 rest with
    | some length => return .v4 (BitVec.ofNat 32 value) length
    | none => none
  | none =>
    let (bits, rest) ← Address.readColons? .lenient letters
    return .v6 bits (← length? 3 129 rest)

end Subnet

end Telemetry.Net
