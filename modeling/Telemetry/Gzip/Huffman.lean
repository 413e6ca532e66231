import Telemetry.Gzip.Bits
/-!
Prefix codes given by the lengths of their code words. Code words of one length are consecutive
numbers in the order of their symbols, and shorter ones come first.
-/

namespace Telemetry.Gzip

structure PrefixCode where
  /-- How many symbols have code words of each length from 0 to 15. -/
  counts : Array Nat
  /-- The symbols in the order of their code words. -/
  symbols : Array Nat
deriving Repr

namespace PrefixCode

/-- How much of all words of 15 bits the code words begin. -/
def coverage (lengths : List Nat) : Nat :=
  (lengths.filter (0 < ·)).foldl (fun total length => total + Nat.pow 2 (15 - length)) 0

def used (lengths : List Nat) : Nat := (lengths.filter (0 < ·)).length

/-- The code with these lengths. A code has to be complete, unless it has at most one word and
may be incomplete. -/
def ofLengths? (mayBeIncomplete : Bool) (lengths : List Nat) : Option PrefixCode :=
  if lengths.any (15 < ·) then none
  else if coverage lengths = Nat.pow 2 15 ∨ (mayBeIncomplete ∧ used lengths ≤ 1) then
    let ofLength (length : Nat) : List Nat :=
      (lengths.zipIdx.filter fun (own, _) => own == length).map Prod.snd
    some {
      counts := (0 :: (List.range 15).map fun shorter => (ofLength (shorter + 1)).length).toArray
      symbols := ((List.range 15).flatMap fun shorter => ofLength (shorter + 1)).toArray
    }
  else none

/-- Extends a word bit by bit until it is a code word. `first` is the first word of its length
and `index` the place of that word's symbol. -/
def decodeFrom (code : PrefixCode) :
    (longer length word first index : Nat) → BitSource → Option (Nat × BitSource)
  | 0, _, _, _, _, _ => none
  | longer + 1, length, word, first, index, source =>
    match source.bit? with
    | none => none
    | some (bit, next) =>
      let extended := word + bit
      let count := code.counts.getD length 0
      if extended < first + count then
        (code.symbols[index + (extended - first)]?).map fun symbol => (symbol, next)
      else
        decodeFrom code longer (length + 1) (2 * extended) (2 * (first + count))
          (index + count) next

def decode? (code : PrefixCode) (source : BitSource) : Option (Nat × BitSource) :=
  decodeFrom code 15 1 0 0 0 source

end PrefixCode

end Telemetry.Gzip
