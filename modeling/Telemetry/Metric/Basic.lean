import Telemetry.Binary64.Text
import Telemetry.Text.Integer
import Telemetry.Text.Quoted
/-!
Metrics: named samples of one of two kinds. A gauge is a level, which a new sample replaces; a
counter is a total, to which a new sample is added modulo two to the power 64.
-/

namespace Telemetry

inductive Kind where
  | gauge
  | counter
deriving DecidableEq, Repr, Inhabited

namespace Kind

def all : List Kind := [.gauge, .counter]

def word : Kind → String
  | .gauge => "gauge"
  | .counter => "counter"

def ofWord? (word : String) : Option Kind :=
  if word = "gauge" then some .gauge
  else if word = "counter" then some .counter
  else none

theorem ofWord?_word (kind : Kind) : ofWord? kind.word = some kind := by
  cases kind <;> rfl

end Kind

inductive KindFault where
  | unknown (word : String)
  | cannotMerge (incoming stored : Kind)
  /-- The entry of a snapshot stands among those of the other kind. -/
  | misplaced (stated place : Kind)
deriving DecidableEq, Repr

namespace KindFault

def message : KindFault → String
  | .unknown word => word
  | .cannotMerge incoming stored => incoming.word ++ " cannot be merged into " ++ stored.word
  | .misplaced stated place => stated.word ++ " stored under " ++ place.word ++ "s"

end KindFault

inductive ValueFault where
  | notFinite
  | gaugeFields
  | counterFields
  | unreadableGauge (fault : Binary64.ReadError)
  | unreadableCounter (fault : Integer.ReadError)
  | stated (reason : String)
deriving DecidableEq, Repr

namespace ValueFault

def message : ValueFault → String
  | .notFinite => "gauge must be finite"
  | .gaugeFields => "gauge requires `value` and no `delta`"
  | .counterFields => "counter requires `delta` and no `value`"
  | .unreadableGauge fault => fault.message
  | .unreadableCounter fault => fault.message
  | .stated reason => reason

end ValueFault

inductive MetricError where
  | invalidKind (fault : KindFault)
  | invalidName (name : String)
  | invalidValue (name : String) (fault : ValueFault)
deriving DecidableEq, Repr

namespace MetricError

def message : MetricError → String
  | .invalidKind fault => "invalid metric type: " ++ fault.message
  | .invalidName name => "invalid metric name: " ++ Text.quoted name
  | .invalidValue name fault => "invalid value for metric " ++ name ++ ": " ++ fault.message

def label : MetricError → String
  | .invalidKind _ => "InvalidMetricType"
  | .invalidName _ => "InvalidMetricName"
  | .invalidValue .. => "InvalidMetricValue"

end MetricError

def Kind.ofText (text : String) : Except MetricError Kind :=
  match Kind.ofWord? text with
  | some kind => .ok kind
  | none => .error (.invalidKind (.unknown text))

inductive Sample where
  | gauge (level : Binary64)
  | counter (total : Int64)
deriving DecidableEq, Repr, Inhabited

namespace Sample

def kind : Sample → Kind
  | .gauge _ => .gauge
  | .counter _ => .counter

/-- A gauge, which has to be finite: no document has a numeral for anything else. -/
def finiteGauge (name : String) (level : Binary64) : Except MetricError Sample :=
  if level.isFinite then .ok (.gauge level) else .error (.invalidValue name .notFinite)

def ofText (kind : Kind) (name text : String) : Except MetricError Sample :=
  match kind with
  | .gauge =>
    match Binary64.ofText text with
    | .ok level => finiteGauge name level
    | .error fault => .error (.invalidValue name (.unreadableGauge fault))
  | .counter =>
    match Integer.readInt64 text with
    | .ok total => .ok (.counter total)
    | .error fault => .error (.invalidValue name (.unreadableCounter fault))

/-- Merges an incoming sample into a stored one of the same kind. -/
def merge (stored incoming : Sample) : Except MetricError Sample :=
  match stored, incoming with
  | .gauge _, .gauge level => .ok (.gauge level)
  | .counter total, .counter delta => .ok (.counter (total + delta))
  | stored, incoming => .error (.invalidKind (.cannotMerge incoming.kind stored.kind))

def text : Sample → String
  | .gauge level => level.plainText
  | .counter total => Integer.text total.toInt

def isFinite : Sample → Bool
  | .gauge level => level.isFinite
  | .counter _ => true

end Sample

structure Metric where
  name : String
  sample : Sample
deriving DecidableEq, Repr, Inhabited

namespace Metric

def gauge (name : String) (level : Binary64) : Metric := ⟨name, .gauge level⟩

def counter (name : String) (total : Int64) : Metric := ⟨name, .counter total⟩

def kind (metric : Metric) : Kind := metric.sample.kind

def update (stored incoming : Metric) : Except MetricError Metric :=
  if stored.name = incoming.name then
    (stored.sample.merge incoming.sample).map fun sample => { stored with sample }
  else .error (.invalidName incoming.name)

end Metric

end Telemetry
