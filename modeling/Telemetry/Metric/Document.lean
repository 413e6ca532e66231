import Telemetry.Json.Record
import Telemetry.Json.Writer
import Telemetry.Metric.Envelope
/-!
Envelopes and queries as JSON. A value or a delta that is absent is left out when it is written,
and may be missing or `null` when it is read.
-/

namespace Telemetry

namespace Envelope

def toJson (envelope : Envelope) : Json :=
  .ofMembers <|
    [("id", .ofText envelope.name), ("type", .ofText envelope.kind)] ++
      (envelope.value.map fun value => ("value", Json.ofBinary64 value)).toList ++
      (envelope.delta.map fun delta => ("delta", Json.ofInt64 delta)).toList

def ofJson? (document : Json) : Option Envelope := do
  match ← Json.record? ["id", "type", "value", "delta"] document with
  | [name, kind, value, delta] =>
    return {
      name := ← Json.required Json.text? name
      kind := ← Json.required Json.text? kind
      value := ← Json.optional Json.binary64? value
      delta := ← Json.optional Json.int64? delta
    }
  | _ => none

def manyOfJson? : Json → Option (List Envelope)
  | .array items => items.mapM ofJson?
  | _ => none

def manyToJson (envelopes : List Envelope) : Json := .array (envelopes.map toJson)

def read? (document : Bytes) : Option Envelope := (Json.read? document).bind ofJson?

def readMany? (document : Bytes) : Option (List Envelope) :=
  (Json.read? document).bind manyOfJson?

def write (envelope : Envelope) : Bytes := envelope.toJson.compact

def writeMany (envelopes : List Envelope) : Bytes := (manyToJson envelopes).compact

end Envelope

namespace Query

def toJson (query : Query) : Json :=
  .ofMembers [("id", .ofText query.name), ("type", .ofText query.kind)]

def ofJson? (document : Json) : Option Query := do
  match ← Json.record? ["id", "type"] document with
  | [name, kind] =>
    return { name := ← Json.required Json.text? name, kind := ← Json.required Json.text? kind }
  | _ => none

def read? (document : Bytes) : Option Query := (Json.read? document).bind ofJson?

def write (query : Query) : Bytes := query.toJson.compact

end Query

end Telemetry
