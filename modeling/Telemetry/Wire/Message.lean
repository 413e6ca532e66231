import Telemetry.Metric.Envelope
import Telemetry.Wire.Field
/-!
The messages of the remote interface.

An envelope writes its name and kind unless they are empty, and its value and delta whenever they
are present. Reading goes through the fields in order: the last occurrence of a field wins, fields
of other numbers are skipped, and a field of the right number but the wrong type is an error.
-/

namespace Telemetry

namespace Wire

/-- A text field that is left out when it is empty. -/
def textField (number : Nat) (text : String) : List Field :=
  if text = "" then [] else [⟨number, .octets (Bytes.ofText text)⟩]

def int64ToNat (value : Int64) : Nat := value.toUInt64.toNat

def int64OfNat (value : Nat) : Int64 := (UInt64.ofNat value).toInt64

def binary64Octets (number : Binary64) : Bytes := Bytes.ofNatLE 8 number.bits.toNat

def binary64OfOctets (octets : Bytes) : Binary64 := ⟨UInt64.ofNat (Bytes.toNatLE octets)⟩

def text? : Content → Option String
  | .octets octets => Bytes.text? octets
  | _ => none

end Wire

open Wire

namespace Envelope

def blank : Envelope := ⟨"", "", none, none⟩

/-- The fields of the message that states an envelope. The message has the four members of the
envelope, its name as the identifier and its kind as the type, so that turning one into the other
only moves them: the fields are written from the envelope itself. -/
def fields (envelope : Envelope) : List Field :=
  textField 1 envelope.name ++ textField 2 envelope.kind ++
    (envelope.value.map fun value => ⟨3, .fixed64 (binary64Octets value)⟩).toList ++
    (envelope.delta.map fun delta => ⟨4, .varint (int64ToNat delta)⟩).toList

def toWire (envelope : Envelope) : Bytes := writeFields envelope.fields

/-- Reads a field of the message straight into the member of the envelope that it states. -/
def takeField (envelope : Envelope) (field : Field) : Option Envelope :=
  match field.number with
  | 1 => (text? field.content).map fun name => { envelope with name }
  | 2 => (text? field.content).map fun kind => { envelope with kind }
  | 3 =>
    match field.content with
    | .fixed64 octets => some { envelope with value := some (binary64OfOctets octets) }
    | _ => none
  | 4 =>
    match field.content with
    | .varint value => some { envelope with delta := some (int64OfNat value) }
    | _ => none
  | _ => some envelope

def mergeWire? (nested : Nat) (before : Envelope) (octets : Bytes) : Option Envelope :=
  (fields? nested octets).bind fun fields => fields.foldlM takeField before

def ofWire? (octets : Bytes) : Option Envelope := mergeWire? 0 blank octets

/-- A message whose first field is an envelope that may be missing. Envelopes that are repeated
are read over one another. -/
def optionalOfWire? (octets : Bytes) : Option (Option Envelope) :=
  (fields? 0 octets).bind fun fields =>
    fields.foldlM
      (fun found field =>
        if field.number = 1 then
          match field.content with
          | .octets inner => (mergeWire? 1 (found.getD blank) inner).map some
          | _ => none
        else some found)
      none

def optionalToWire (envelope : Option Envelope) : Bytes :=
  writeFields (envelope.map fun envelope => ⟨1, .octets envelope.toWire⟩).toList

def manyOfWire? (octets : Bytes) : Option (List Envelope) :=
  (fields? 0 octets).bind fun fields =>
    (fields.filter (fun field => field.number = 1)).mapM fun field =>
      match field.content with
      | .octets inner => mergeWire? 1 blank inner
      | _ => none

def manyToWire (envelopes : List Envelope) : Bytes :=
  writeFields (envelopes.map fun envelope => ⟨1, .octets envelope.toWire⟩)

end Envelope

namespace Query

def takeField (query : Query) (field : Field) : Option Query :=
  match field.number with
  | 1 => (text? field.content).map fun name => { query with name }
  | 2 => (text? field.content).map fun kind => { query with kind }
  | _ => some query

def ofWire? (octets : Bytes) : Option Query :=
  (fields? 0 octets).bind fun fields => fields.foldlM takeField ⟨"", ""⟩

def toWire (query : Query) : Bytes :=
  writeFields (textField 1 query.name ++ textField 2 query.kind)

end Query

namespace Wire

/-- A list of names, each in a field of its own, also when it is empty. -/
def namesToWire (names : List String) : Bytes :=
  writeFields (names.map fun name => ⟨1, .octets (Bytes.ofText name)⟩)

/-- A message without fields of its own still has to be a sequence of fields. -/
def isEmptyMessage (octets : Bytes) : Bool := (fields? 0 octets).isSome

end Wire

end Telemetry
