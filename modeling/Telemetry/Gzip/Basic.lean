import Telemetry.Gzip.Crc32
import Telemetry.Gzip.Inflate
/-!
Members of gzip files: a header, deflated data, and the check sum and length of what was packed.
`gunzip?` reads the first member and ignores what comes after it.
-/

namespace Telemetry.Gzip

/-- Drops the octets up to and including the first zero. A field of this kind has at most 65535
octets before the zero. -/
def skipField? (octets : Bytes) : Option Bytes :=
  let field := octets.takeWhile (· != 0)
  if 65535 < field.length then none
  else
    match octets.drop field.length with
    | _ :: rest => some rest
    | [] => none

def skip? (count : Nat) (octets : Bytes) : Option Bytes :=
  if count ≤ octets.length then some (octets.drop count) else none

def flagged (flags : UInt8) (bit : UInt8) : Bool := flags &&& bit != 0

/-- Skips the extra field, the name and the comment that the flags announce. -/
def skipOptional? (flags : UInt8) (octets : Bytes) : Option Bytes := do
  let octets ←
    if flagged flags 4 then
      match octets with
      | low :: high :: rest => skip? (low.toNat + 256 * high.toNat) rest
      | _ => none
    else some octets
  let octets ← if flagged flags 8 then skipField? octets else some octets
  if flagged flags 16 then skipField? octets else some octets

/-- What follows the header. A check sum of the header is compared; reserved flags are refused. -/
def skipHeader? (octets : Bytes) : Option Bytes :=
  match octets with
  | 0x1f :: 0x8b :: 8 :: flags :: _ :: _ :: _ :: _ :: _ :: _ :: rest =>
    if flags &&& 0xE0 != 0 then none
    else do
      let rest ← skipOptional? flags rest
      if flagged flags 2 then
        match rest with
        | low :: high :: after =>
          let header := octets.take (octets.length - rest.length)
          if (Crc32.sum header).toNat % 65536 = low.toNat + 256 * high.toNat then some after
          else none
        | _ => none
      else some rest
  | _ => none

/-- Whether the first eight octets are the check sum and the length of the output. -/
def trailerFits (output octets : Bytes) : Bool :=
  octets.take 8 ==
    Bytes.ofNatLE 4 (Crc32.sum output).toNat ++ Bytes.ofNatLE 4 (output.length % UInt32.size)

def gunzip? (octets : Bytes) : Option Bytes := do
  let (output, rest) ← inflate? (← skipHeader? octets)
  if trailerFits output rest then some output else none

/-- A header without flags, time or optional fields, of an unknown file system. -/
def header : Bytes := [0x1f, 0x8b, 8, 0, 0, 0, 0, 0, 0, 0xff]

/-- Packs octets into stored blocks. Another encoder could stand here: of this one, statements about
parcels use nothing but that `gunzip?` undoes it, which is why it does not unfold. -/
@[irreducible] def gzip (octets : Bytes) : Bytes :=
  header ++ deflateStored octets ++
    Bytes.ofNatLE 4 (Crc32.sum octets).toNat ++ Bytes.ofNatLE 4 (octets.length % UInt32.size)

end Telemetry.Gzip
