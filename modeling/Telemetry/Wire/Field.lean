import Telemetry.Wire.Varint
/-!
Messages as sequences of numbered fields. `fields?` reads the fields of a message without
knowing its type; of a group, which no message of this library uses, only the place is kept, and
its balance is checked.
-/

namespace Telemetry.Wire

/-- What a field holds, by its wire type. -/
inductive Content where
  | varint (value : Nat)
  | fixed64 (value : Bytes)
  | octets (value : Bytes)
  | openGroup
  | closeGroup
  | fixed32 (value : Bytes)
deriving DecidableEq, Repr

structure Field where
  number : Nat
  content : Content
deriving DecidableEq, Repr

namespace Content

def wireType : Content → Nat
  | .varint _ => 0
  | .fixed64 _ => 1
  | .octets _ => 2
  | .openGroup => 3
  | .closeGroup => 4
  | .fixed32 _ => 5

def write : Content → Bytes
  | .varint value => writeVarint value
  | .fixed64 value => value
  | .octets value => writeVarint value.length ++ value
  | .openGroup | .closeGroup => []
  | .fixed32 value => value

def split? (count : Nat) (input : Bytes) : Option (Bytes × Bytes) :=
  let front := input.take count
  if front.length = count then some (front, input.drop count) else none

def read? (wireType : Nat) (input : Bytes) : Option (Content × Bytes) :=
  match wireType with
  | 0 => (readVarint? input).map fun (value, rest) => (.varint value, rest)
  | 1 => (split? 8 input).map fun (front, rest) => (.fixed64 front, rest)
  | 2 => do
    let (length, rest) ← readVarint? input
    let (front, after) ← split? length rest
    return (.octets front, after)
  | 3 => some (.openGroup, input)
  | 4 => some (.closeGroup, input)
  | 5 => (split? 4 input).map fun (front, rest) => (.fixed32 front, rest)
  | _ => none

end Content

namespace Field

def write (field : Field) : Bytes :=
  writeVarint (field.number * 8 + field.content.wireType) ++ field.content.write

/-- Reads one field. Its key fits 32 bits and its number is positive. -/
def read? (octets : Bytes) : Option (Field × Bytes) := do
  let (key, rest) ← readVarint? octets
  if UInt32.size ≤ key ∨ key / 8 = 0 then none
  else
    let (content, after) ← Content.read? (key % 8) rest
    return (⟨key / 8, content⟩, after)

end Field

def writeFields (fields : List Field) : Bytes := fields.flatMap Field.write

/-- Reads fields to the end; every field takes at least one octet, so as many steps as there are
octets are enough. -/
def scanFields : (steps : Nat) → Bytes → Option (List Field)
  | _, [] => some []
  | 0, _ :: _ => none
  | steps + 1, octet :: octets =>
    match Field.read? (octet :: octets) with
    | none => none
    | some (field, rest) => (scanFields steps rest).map (field :: ·)

/-- The fields outside of all groups, with a mark where each outermost group opens. A group
closes with the number it opened with, and groups are nested at most `depth` deep; `opened` holds
the numbers of those that are open. -/
def outsideGroups (depth : Nat) : (opened : List Nat) → List Field → Option (List Field)
  | [], [] => some []
  | _ :: _, [] => none
  | opened, field :: rest =>
    match field.content with
    | .openGroup =>
      if opened.length < depth then
        (outsideGroups depth (field.number :: opened) rest).map fun others =>
          if opened.isEmpty then field :: others else others
      else none
    | .closeGroup =>
      match opened with
      | number :: outer => if number = field.number then outsideGroups depth outer rest else none
      | [] => none
    | _ =>
      match opened with
      | [] => (outsideGroups depth [] rest).map (field :: ·)
      | _ => if opened.length < depth then outsideGroups depth opened rest else none

/-- How deep fields may be nested in all. -/
def nestingLimit : Nat := 100

/-- The fields of a message that lies inside `nested` others. -/
def fields? (nested : Nat) (octets : Bytes) : Option (List Field) :=
  (scanFields octets.length octets).bind (outsideGroups (nestingLimit - nested) [])

end Telemetry.Wire
