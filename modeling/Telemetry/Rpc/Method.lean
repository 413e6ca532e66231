import Telemetry.Rpc.Status
import Telemetry.Service.Basic
import Telemetry.Wire.Message
/-!
The methods that can be called remotely: what they are asked, what they answer and how both are
written on the wire.
-/

namespace Telemetry.Rpc

inductive Method where
  | updateMetric
  | updateMetrics
  | getMetric
  | getMetrics
  | ping
deriving DecidableEq, Repr

inductive Call where
  | updateMetric (envelope : Option Envelope)
  | updateMetrics (envelopes : List Envelope)
  | getMetric (query : Query)
  | getMetrics
  | ping
deriving DecidableEq, Repr

inductive Reply where
  | metric (envelope : Envelope)
  | names (listed : List String)
  | nothing
deriving DecidableEq, Repr

namespace Method

def all : List Method := [.updateMetric, .updateMetrics, .getMetric, .getMetrics, .ping]

def path : Method → String
  | .updateMetric => "/metrika.MetricService/UpdateMetric"
  | .updateMetrics => "/metrika.MetricService/UpdateMetricsBatch"
  | .getMetric => "/metrika.MetricService/GetMetric"
  | .getMetrics => "/metrika.MetricService/GetMetrics"
  | .ping => "/metrika.MetricService/Ping"

def ofPath? (path : String) : Option Method := all.find? fun method => method.path == path

theorem ofPath?_path (method : Method) : ofPath? method.path = some method := by
  cases method <;> decide

def call? (method : Method) (message : Bytes) : Option Call :=
  match method with
  | .updateMetric => (Envelope.optionalOfWire? message).map .updateMetric
  | .updateMetrics => (Envelope.manyOfWire? message).map .updateMetrics
  | .getMetric => (Query.ofWire? message).map .getMetric
  | .getMetrics => if Wire.isEmptyMessage message then some .getMetrics else none
  | .ping => if Wire.isEmptyMessage message then some .ping else none

end Method

namespace Reply

def toWire : Reply → Bytes
  | .metric envelope => Envelope.optionalToWire (some envelope)
  | .names listed => Wire.namesToWire listed
  | .nothing => []

end Reply

def metricRequired : Status := ⟨.invalidArgument, "metric is required"⟩

def serve (work : Serving σ α) : ExceptT Status (StateM (Session σ)) α :=
  ExceptT.mk do return (← work.run).mapError ServiceError.rpcStatus

def perform (service : Service σ) : Call → ExceptT Status (StateM (Session σ)) Reply
  | .updateMetric none => throw metricRequired
  | .updateMetric (some envelope) => return .metric (← serve (service.updateOne envelope))
  | .updateMetrics envelopes => do
    serve (service.updateBatch envelopes)
    return .nothing
  | .getMetric query => return .metric (Envelope.ofMetric (← serve (service.getOne query)))
  | .getMetrics => return .names (← serve service.names)
  | .ping => do
    serve service.ping
    return .nothing

end Telemetry.Rpc
