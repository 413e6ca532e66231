import Telemetry.Bytes
/-!
Octets in 64 letters, four letters for three octets, filled up with equals signs. Reading is
strict: nothing but letters in groups of four, and no bits set that stand for no octet.
-/

namespace Telemetry.Crypto.Base64

def value? (letter : UInt8) : Option Nat :=
  let code := letter.toNat
  if 65 ≤ code ∧ code ≤ 90 then some (code - 65)
  else if 97 ≤ code ∧ code ≤ 122 then some (code - 71)
  else if 48 ≤ code ∧ code ≤ 57 then some (code + 4)
  else if code = 43 then some 62
  else if code = 47 then some 63
  else none

def pad : UInt8 := Bytes.ascii '='

def join (first second third fourth : Nat) : Bytes :=
  Bytes.ofNatBE 3 (((first * 64 + second) * 64 + third) * 64 + fourth)

def decode? : Bytes → Option Bytes
  | [] => some []
  | a :: b :: c :: d :: rest => do
    let first ← value? a
    let second ← value? b
    if c = pad ∧ d = pad ∧ rest.isEmpty then
      if second % 16 = 0 then return (join first second 0 0).take 1 else none
    else
      let third ← value? c
      if d = pad ∧ rest.isEmpty then
        if third % 4 = 0 then return (join first second third 0).take 2 else none
      else
        let fourth ← value? d
        return join first second third fourth ++ (← decode? rest)
  | _ => none

end Telemetry.Crypto.Base64
