import Telemetry.Gzip.Huffman
/-!
Unpacking deflated data: blocks that are stored as they are, and blocks of literals and of
copies from what was already unpacked, written in a fixed prefix code or in one of their own.
-/

namespace Telemetry.Gzip

namespace Inflate

/-- The shortest copy that each length symbol from 257 on stands for. -/
def lengthBases : Array Nat :=
  #[3, 4, 5, 6, 7, 8, 9, 10, 11, 13, 15, 17, 19, 23, 27, 31, 35, 43, 51, 59, 67, 83, 99, 115,
    131, 163, 195, 227, 258]

/-- How many more bits tell the length of the copy. -/
def lengthBits : Array Nat :=
  #[0, 0, 0, 0, 0, 0, 0, 0, 1, 1, 1, 1, 2, 2, 2, 2, 3, 3, 3, 3, 4, 4, 4, 4, 5, 5, 5, 5, 0]

/-- The shortest distance that each distance symbol stands for. -/
def distanceBases : Array Nat :=
  #[1, 2, 3, 4, 5, 7, 9, 13, 17, 25, 33, 49, 65, 97, 129, 193, 257, 385, 513, 769, 1025, 1537,
    2049, 3073, 4097, 6145, 8193, 12289, 16385, 24577]

/-- How many more bits tell the distance. -/
def distanceBits : Array Nat :=
  #[0, 0, 0, 0, 1, 1, 2, 2, 3, 3, 4, 4, 5, 5, 6, 6, 7, 7, 8, 8, 9, 9, 10, 10, 11, 11, 12, 12,
    13, 13]

/-- The order in which the lengths of the code for code lengths are written. -/
def codeLengthOrder : List Nat :=
  [16, 17, 18, 0, 8, 7, 9, 6, 10, 5, 11, 4, 12, 3, 13, 2, 14, 1, 15]

/-- Appends octets from `distance` places back, one after another. -/
def copy (distance : Nat) : (length : Nat) → Array UInt8 → Array UInt8
  | 0, output => output
  | length + 1, output =>
    copy distance length (output.push (output.getD (output.size - distance) 0))

def extended? (bases widths : Array Nat) (index : Nat) (source : BitSource) :
    Option (Nat × BitSource) :=
  match bases[index]?, widths[index]? with
  | some base, some width =>
    (source.bits? width).map fun (more, after) => (base + more, after)
  | _, _ => none

/-- Reads literals and copies up to the end of the block. Every symbol takes a bit at least, so
that there are enough steps if there are as many as bits. -/
def symbols (literals distances : PrefixCode) :
    (steps : Nat) → BitSource → Array UInt8 → Option (BitSource × Array UInt8)
  | 0, _, _ => none
  | steps + 1, source, output =>
    match literals.decode? source with
    | none => none
    | some (symbol, next) =>
      if symbol < 256 then symbols literals distances steps next (output.push (UInt8.ofNat symbol))
      else if symbol = 256 then some (next, output)
      else
        match extended? lengthBases lengthBits (symbol - 257) next with
        | none => none
        | some (length, next) =>
          match distances.decode? next with
          | none => none
          | some (distanceSymbol, next) =>
            match extended? distanceBases distanceBits distanceSymbol next with
            | none => none
            | some (distance, next) =>
              if distance ≤ output.size then
                symbols literals distances steps next (copy distance length output)
              else none

/-- Reads `needed` code lengths; the latest length comes first in `done`. -/
def codeLengths (code : PrefixCode) (needed : Nat) :
    (steps : Nat) → BitSource → (done : List Nat) → Option (List Nat × BitSource)
  | 0, _, _ => none
  | steps + 1, source, done =>
    if needed ≤ done.length then
      if done.length = needed then some (done.reverse, source) else none
    else
      match code.decode? source with
      | none => none
      | some (symbol, next) =>
        let repeated (width base length : Nat) : Option (List Nat × BitSource) :=
          match next.bits? width with
          | none => none
          | some (more, after) =>
            codeLengths code needed steps after (List.replicate (base + more) length ++ done)
        if symbol < 16 then codeLengths code needed steps next (symbol :: done)
        else if symbol = 16 then
          match done with
          | [] => none
          | last :: _ => repeated 2 3 last
        else if symbol = 17 then repeated 3 3 0
        else repeated 7 11 0

def fixedLiterals? : Option PrefixCode :=
  PrefixCode.ofLengths? false <|
    List.replicate 144 8 ++ List.replicate 112 9 ++ List.replicate 24 7 ++ List.replicate 8 8

def fixedDistances? : Option PrefixCode := PrefixCode.ofLengths? false (List.replicate 32 5)

def triples : (count : Nat) → BitSource → Option (List Nat × BitSource)
  | 0, source => some ([], source)
  | count + 1, source =>
    match source.bits? 3 with
    | none => none
    | some (value, next) =>
      (triples count next).map fun (values, after) => (value :: values, after)

def ownCodes? (source : BitSource) : Option (PrefixCode × PrefixCode × BitSource) := do
  let (moreLiterals, source) ← source.bits? 5
  let (moreDistances, source) ← source.bits? 5
  let (moreLengths, source) ← source.bits? 4
  let (written, source) ← triples (moreLengths + 4) source
  let placed := codeLengthOrder.zip written
  let lengthOf (symbol : Nat) : Nat := (placed.lookup symbol).getD 0
  let code ← PrefixCode.ofLengths? false ((List.range 19).map lengthOf)
  let literalCount := moreLiterals + 257
  let needed := literalCount + moreDistances + 1
  let (lengths, source) ← codeLengths code needed (needed + 1) source []
  let literals ← PrefixCode.ofLengths? true (lengths.take literalCount)
  let distances ← PrefixCode.ofLengths? true (lengths.drop literalCount)
  return (literals, distances, source)

/-- A stored block: its length, the length with all bits turned, and its octets. -/
def stored? (octets : Bytes) (output : Array UInt8) : Option (BitSource × Array UInt8) :=
  match octets with
  | low :: high :: lowTurned :: highTurned :: rest =>
    let length := low.toNat + 256 * high.toNat
    if length + (lowTurned.toNat + 256 * highTurned.toNat) = 65535 then
      let body := rest.take length
      if body.length = length then
        some (.ofBytes (rest.drop length), output ++ body.toArray)
      else none
    else none
  | _ => none

/-- Reads blocks up to the last one. `steps` bounds the number of blocks and of the symbols in
each. -/
def blocks : (steps : Nat) → (budget : Nat) → BitSource → Array UInt8 →
    Option (Bytes × Array UInt8)
  | 0, _, _, _ => none
  | steps + 1, budget, source, output =>
    match source.bits? 1 with
    | none => none
    | some (last, source) =>
      match source.bits? 2 with
      | none => none
      | some (kind, source) =>
        let block? : Option (BitSource × Array UInt8) :=
          if kind = 0 then stored? source.aligned output
          else if kind = 1 then
            match fixedLiterals?, fixedDistances? with
            | some literals, some distances => symbols literals distances budget source output
            | _, _ => none
          else if kind = 2 then
            match ownCodes? source with
            | some (literals, distances, source) =>
              symbols literals distances budget source output
            | none => none
          else none
        match block? with
        | none => none
        | some (source, output) =>
          if last = 1 then some (source.aligned, output)
          else blocks steps budget source output

end Inflate

/-- Unpacks the deflated data at the front of a byte string and gives what follows it. -/
def inflate? (octets : Bytes) : Option (Bytes × Bytes) :=
  let budget := 8 * octets.length + 1
  (Inflate.blocks budget budget (.ofBytes octets) #[]).map fun (rest, output) =>
    (output.toList, rest)

/-- The octets in stored blocks, the last of them marked. `steps` is at least the number of
blocks. -/
def storedBlocks : (steps : Nat) → Bytes → Bytes
  | 0, _ => []
  | steps + 1, octets =>
    let front := octets.take 65535
    let rest := octets.drop 65535
    let header (last : UInt8) : Bytes :=
      last :: Bytes.ofNatLE 2 front.length ++ Bytes.ofNatLE 2 (65535 - front.length)
    if rest.isEmpty then header 1 ++ front
    else header 0 ++ front ++ storedBlocks steps rest

/-- Deflated data that unpacks to the octets; nothing is made shorter. -/
def deflateStored (octets : Bytes) : Bytes := storedBlocks (octets.length / 65535 + 1) octets

end Telemetry.Gzip
