import Telemetry.Metric.Envelope
import Telemetry.Service.Error
import Telemetry.Store.Backend
/-!
The service: what can be asked of a server, under whichever framing. A call of the store that fails
for a reason that may pass is repeated. A service that keeps its file in step saves the store after
each write, before it answers.

A write is checked as a whole before anything of it reaches the store.
-/

namespace Telemetry

/-- The store of a server with the clock and what has been logged, the earliest first. -/
structure Session (σ : Type) where
  store : σ
  now : Nat
  events : List Log.Event

namespace Session

def log (session : Session σ) (events : List Log.Event) : Session σ :=
  { session with events := session.events ++ events }

end Session

abbrev Serving (σ α : Type) := ExceptT ServiceError (StateM (Session σ)) α

structure Service (σ : Type) where
  backend : Backend σ
  backoff : Backoff
  /-- Whether the file is kept in step with the store. -/
  keepsFile : Bool

namespace Service

/-- Repeats an operation of the store by the schedule of the service. -/
def attempt (service : Service σ) (operation : StoreOperation σ α) : Serving σ α :=
  ExceptT.mk fun session =>
    let outcome := service.backoff.retry none operation session.now session.store
    (outcome.result.mapError ServiceError.ofStorage,
      { store := outcome.state, now := outcome.finished,
        events := session.events ++ outcome.events })

/-- What follows each write. -/
def afterWrite (service : Service σ) : Serving σ Unit :=
  if service.keepsFile then service.attempt service.backend.save else pure ()

def check (result : Except MetricError α) : Serving σ α :=
  match result with
  | .ok value => pure value
  | .error error => throw (.invalid error)

/-- Merges the metric in an envelope and answers what is stored afterwards. -/
def updateOne (service : Service σ) (envelope : Envelope) : Serving σ Envelope := do
  let metric ← check envelope.metric
  let stored ← service.attempt (service.backend.update metric)
  service.afterWrite
  return Envelope.ofMetric stored

/-- Merges the metrics in envelopes, or none of them if one is invalid. -/
def updateBatch (service : Service σ) (envelopes : List Envelope) : Serving σ Unit := do
  let metrics ← check (Envelope.metrics envelopes)
  if metrics.isEmpty then return ()
  service.attempt (service.backend.updateAll metrics)
  service.afterWrite

/-- The metric that three words describe. Of several faults the kind comes first, then the name,
then the value. -/
def metricOfWords (kind name value : String) : Except MetricError Metric := do
  let kind ← Kind.ofText kind
  if name = "" then throw (.invalidName "")
  let sample ← Sample.ofText kind name value
  return ⟨name, sample⟩

def updateWords (service : Service σ) (kind name value : String) : Serving σ Unit := do
  let metric ← check (metricOfWords kind name value)
  let _ ← service.attempt (service.backend.update metric)
  service.afterWrite

/-- The metric that a query asks for; an unknown kind has no metrics. -/
def getOne (service : Service σ) (query : Query) : Serving σ Metric := do
  match Kind.ofText query.kind with
  | .error error => throw (.notFound error.message)
  | .ok kind => service.attempt (service.backend.get kind query.name)

/-- The names of a list of metrics in ascending order, each once. -/
def namesOf (metrics : List Metric) : List String :=
  (NameMap.ofList (metrics.map fun metric => (metric.name, ()))).names

def names (service : Service σ) : Serving σ (List String) := do
  return namesOf (← service.attempt service.backend.list)

def index (service : Service σ) : Serving σ String := do
  return ",\n".intercalate (← service.names)

def ping (service : Service σ) : Serving σ Unit := service.attempt service.backend.ping

end Service

end Telemetry
