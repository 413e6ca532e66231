import Telemetry.Metric.Basic
/-!
Envelopes: metrics as they travel. The kind stays a word until somebody asks for the metric, so
that an unknown word is an error of the metric and not of the document it came in.
-/

namespace Telemetry

structure Envelope where
  name : String
  kind : String
  value : Option Binary64
  delta : Option Int64
deriving DecidableEq, Repr, Inhabited

namespace Envelope

def ofMetric (metric : Metric) : Envelope :=
  match metric.sample with
  | .gauge level => ⟨metric.name, Kind.gauge.word, some level, none⟩
  | .counter total => ⟨metric.name, Kind.counter.word, none, some total⟩

/-- The sample an envelope of a known kind carries: exactly the field of its kind. -/
def sample (envelope : Envelope) : Kind → Except MetricError Sample
  | .gauge =>
    match envelope.value, envelope.delta with
    | some level, none => Sample.finiteGauge envelope.name level
    | _, _ => .error (.invalidValue envelope.name .gaugeFields)
  | .counter =>
    match envelope.value, envelope.delta with
    | none, some total => .ok (.counter total)
    | _, _ => .error (.invalidValue envelope.name .counterFields)

/-- The metric in an envelope. Of several faults the kind comes first, then the name, then the
value. -/
def metric (envelope : Envelope) : Except MetricError Metric := do
  let kind ← Kind.ofText envelope.kind
  if envelope.name = "" then throw (.invalidName "")
  let sample ← envelope.sample kind
  return ⟨envelope.name, sample⟩

/-- The metrics of a batch, or the error of its first envelope that holds none. -/
def metrics (envelopes : List Envelope) : Except MetricError (List Metric) :=
  envelopes.mapM metric

end Envelope

/-- Which metric somebody asks for; the kind is a word as in an envelope. -/
structure Query where
  name : String
  kind : String
deriving DecidableEq, Repr, Inhabited

end Telemetry
