import Telemetry.Bytes
/-!
The cyclic redundancy check of 32 bits with the reversed polynomial 0xEDB88320.
-/

namespace Telemetry.Gzip.Crc32

def shift (register : UInt32) : UInt32 :=
  if register &&& 1 = 1 then (register >>> 1) ^^^ 0xEDB88320 else register >>> 1

def entry (octet : Nat) : UInt32 :=
  (List.range 8).foldl (fun register _ => shift register) (UInt32.ofNat octet)

/-- The effect of every octet on an empty register. -/
def table : Array UInt32 := (Array.range 256).map entry

def step (register : UInt32) (octet : UInt8) : UInt32 :=
  table.getD ((register ^^^ octet.toUInt32) &&& 0xFF).toNat 0 ^^^ (register >>> 8)

def sum (octets : Bytes) : UInt32 := octets.foldl step 0xFFFFFFFF ^^^ 0xFFFFFFFF

end Telemetry.Gzip.Crc32
