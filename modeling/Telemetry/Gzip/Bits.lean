import Telemetry.Bytes
/-!
Octets read bit by bit, the lowest bit of an octet first.
-/

namespace Telemetry.Gzip

/-- The bits of an octet that was begun, and the octets after it. -/
structure BitSource where
  held : Nat
  count : Nat
  rest : Bytes
deriving Repr

namespace BitSource

def ofBytes (octets : Bytes) : BitSource := ⟨0, 0, octets⟩

def bit? (source : BitSource) : Option (Nat × BitSource) :=
  match source.count with
  | 0 =>
    match source.rest with
    | [] => none
    | octet :: rest => some (octet.toNat % 2, ⟨octet.toNat / 2, 7, rest⟩)
  | count + 1 => some (source.held % 2, ⟨source.held / 2, count, source.rest⟩)

/-- A number of so many bits, the lowest first. -/
def bits? : (width : Nat) → BitSource → Option (Nat × BitSource)
  | 0, source => some (0, source)
  | width + 1, source =>
    match source.bit? with
    | none => none
    | some (low, next) =>
      match bits? width next with
      | none => none
      | some (higher, after) => some (low + 2 * higher, after)

def aligned (source : BitSource) : Bytes := source.rest

end BitSource

end Telemetry.Gzip
