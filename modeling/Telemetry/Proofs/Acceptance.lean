import Telemetry.Proofs.Answers
import Telemetry.Proofs.Envelopes
/-!
What a request has merged. `Gateway.accepted` are the metrics that a server takes from a request,
read off the request alone: none, if it is turned away, is ill-formed in part or asks for something
else. All of them have a name and finite levels (`Gateway.allAcceptable_accepted`).
-/

namespace Telemetry

/-- The metrics that are merged of some envelopes: all of them or none. -/
def Envelope.accepted (envelopes : List Envelope) : List Metric :=
  match metrics envelopes with
  | .ok metrics => metrics
  | .error _ => []

namespace Http.Endpoint

/-- The document of a request, if it is short enough and can be read. -/
def document? {α : Type} (read? : Bytes → Option α) (request : Request) : Option α :=
  if longestDocument < request.body.length then none else read? request.body

def acceptedBy (request : Request) : Route → List Metric
  | .update => Envelope.accepted (document? Envelope.read? request).toList
  | .updates => Envelope.accepted ((document? Envelope.readMany? request).getD [])
  | .updateWords kind name value =>
    match Service.metricOfWords kind name value with
    | .ok metric => [metric]
    | .error _ => []
  | _ => []

def accepted (route : Route) (request : Request) : List Metric :=
  if route.allows request.method then
    match route.decode with
    | .ok decoded => acceptedBy request decoded
    | .error _ => []
  else []

end Http.Endpoint

namespace Rpc

def Call.accepted : Call → List Metric
  | .updateMetric envelope => Envelope.accepted envelope.toList
  | .updateMetrics envelopes => Envelope.accepted envelopes
  | _ => []

def accepted (request : Http.Request) : List Metric :=
  match Method.ofPath? request.target.path with
  | none => []
  | some method =>
    match unsupportedEncoding? request.headers with
    | some _ => []
    | none =>
      match Frame.call method request.body with
      | .ok call => call.accepted
      | .error _ => []

end Rpc

namespace Gateway

/-- What is read off a request as it reaches the inner handler, if it gets there. -/
def brought (gateway : Gateway) (request : Http.Request) (read : Http.Request → List Metric) :
    List Metric :=
  match gateway.received? request with
  | none => []
  | some passed => read passed

/-- The metrics that a server behind a gateway merges for a request. -/
def accepted (gateway : Gateway) (framing : Framing) (request : Http.Request) : List Metric :=
  match framing with
  | .call => gateway.brought request Rpc.accepted
  | .document =>
    match Http.Route.ofPath? request.target.path with
    | none => []
    | some route => gateway.brought request (Http.Endpoint.accepted route)

end Gateway

/-! ### Acceptable metrics -/

def AllAcceptable (metrics : List Metric) : Prop :=
  ∀ metric ∈ metrics, metric.isAcceptable = true

theorem allAcceptable_nil : AllAcceptable [] := nofun

theorem Sample.isFinite_of_finiteGauge {name : String} {level : Binary64} {sample : Sample}
    (taken : finiteGauge name level = .ok sample) : sample.isFinite = true := by
  unfold finiteGauge at taken
  by_cases finite : level.isFinite = true
  · rw [if_pos finite] at taken
    cases taken
    exact finite
  · rw [if_neg finite] at taken
    cases taken

theorem Sample.isFinite_of_text {kind : Kind} {name text : String} {sample : Sample}
    (read : ofText kind name text = .ok sample) : sample.isFinite = true := by
  unfold ofText at read
  cases kind with
  | gauge =>
    simp only at read
    split at read
    · exact isFinite_of_finiteGauge read
    · cases read
  | counter =>
    simp only at read
    split at read
    · cases read
      rfl
    · cases read

/-- A metric is put together from a kind, a name and a sample in the same way everywhere. -/
theorem Metric.isAcceptable_of_parts {word name : String}
    {sampleOf : Kind → Except MetricError Sample} {metric : Metric}
    (read : (do
      let kind ← Kind.ofText word
      if name = "" then throw (.invalidName "")
      let sample ← sampleOf kind
      return ⟨name, sample⟩ : Except MetricError Metric) = .ok metric)
    (finite : ∀ kind sample, sampleOf kind = .ok sample → sample.isFinite = true) :
    metric.isAcceptable = true := by
  cases known : Kind.ofText word with
  | error error =>
    rw [known] at read
    cases read
  | ok kind =>
    rw [known] at read
    by_cases empty : name = ""
    · simp only [empty, if_true] at read
      cases read
    · simp only [bind, Except.bind, if_neg empty] at read
      cases found : sampleOf kind with
      | error error =>
        rw [found] at read
        cases read
      | ok sample =>
        rw [found] at read
        cases read
        rw [Metric.isAcceptable, Bool.and_eq_true, bne_iff_ne]
        exact ⟨empty, finite kind sample found⟩

namespace Envelope

theorem isFinite_of_sample {envelope : Envelope} {kind : Kind} {sample : Sample}
    (read : envelope.sample kind = .ok sample) : sample.isFinite = true := by
  unfold Envelope.sample at read
  cases kind with
  | gauge =>
    simp only at read
    split at read
    · exact Sample.isFinite_of_finiteGauge read
    · cases read
  | counter =>
    simp only at read
    split at read
    · cases read
      rfl
    · cases read

theorem isAcceptable_of_metric {envelope : Envelope} {metric : Metric}
    (read : envelope.metric = .ok metric) : metric.isAcceptable = true :=
  Metric.isAcceptable_of_parts read fun _kind _sample => isFinite_of_sample

theorem map_metric_of_metrics {envelopes : List Envelope} {found : List Metric}
    (read : metrics envelopes = .ok found) : envelopes.map metric = found.map Except.ok := by
  induction envelopes generalizing found with
  | nil =>
    cases read
    rfl
  | cons envelope rest ih =>
    unfold metrics at read ih
    rw [List.mapM_cons] at read
    cases first : envelope.metric with
    | error error =>
      rw [first] at read
      cases read
    | ok metric =>
      rw [first] at read
      cases others : rest.mapM Envelope.metric with
      | error error =>
        rw [others] at read
        cases read
      | ok later =>
        rw [others] at read
        cases read
        rw [List.map_cons, List.map_cons, first, ih others]

theorem allAcceptable_of_metrics {envelopes : List Envelope} {found : List Metric}
    (read : metrics envelopes = .ok found) : AllAcceptable found := by
  intro metric member
  have taken : Except.ok metric ∈ envelopes.map Envelope.metric := by
    rw [map_metric_of_metrics read]
    exact List.mem_map_of_mem member
  obtain ⟨envelope, _inside, valid⟩ := List.mem_map.mp taken
  exact isAcceptable_of_metric valid

theorem allAcceptable_accepted (envelopes : List Envelope) :
    AllAcceptable (accepted envelopes) := by
  unfold accepted
  cases read : metrics envelopes with
  | ok metrics => exact allAcceptable_of_metrics read
  | error error => exact allAcceptable_nil

end Envelope

theorem Service.isAcceptable_of_words {kind name value : String} {metric : Metric}
    (read : metricOfWords kind name value = .ok metric) : metric.isAcceptable = true :=
  Metric.isAcceptable_of_parts read fun _kind _sample => Sample.isFinite_of_text

theorem Http.Endpoint.allAcceptable_accepted (route : Route) (request : Request) :
    AllAcceptable (accepted route request) := by
  unfold accepted
  split
  · cases route.decode with
    | error name => exact allAcceptable_nil
    | ok decoded =>
      cases decoded with
      | update => exact Envelope.allAcceptable_accepted _
      | updates => exact Envelope.allAcceptable_accepted _
      | updateWords kind name value =>
        simp only [acceptedBy]
        cases read : Service.metricOfWords kind name value with
        | error error => exact allAcceptable_nil
        | ok metric =>
          intro member inside
          rw [List.mem_singleton.mp inside]
          exact Service.isAcceptable_of_words read
      | index => exact allAcceptable_nil
      | ping => exact allAcceptable_nil
      | query => exact allAcceptable_nil
      | queryWords kind name => exact allAcceptable_nil
  · exact allAcceptable_nil

theorem Rpc.allAcceptable_accepted (request : Http.Request) :
    AllAcceptable (accepted request) := by
  unfold accepted
  cases Method.ofPath? request.target.path with
  | none => exact allAcceptable_nil
  | some method =>
    simp only
    cases unsupportedEncoding? request.headers with
    | some status => exact allAcceptable_nil
    | none =>
      simp only
      cases Frame.call method request.body with
      | error status => exact allAcceptable_nil
      | ok call =>
        cases call with
        | updateMetric envelope => exact Envelope.allAcceptable_accepted _
        | updateMetrics envelopes => exact Envelope.allAcceptable_accepted _
        | getMetric query => exact allAcceptable_nil
        | getMetrics => exact allAcceptable_nil
        | ping => exact allAcceptable_nil

namespace Gateway

theorem allAcceptable_brought (gateway : Gateway) (request : Http.Request)
    {read : Http.Request → List Metric} (acceptable : ∀ passed, AllAcceptable (read passed)) :
    AllAcceptable (gateway.brought request read) := by
  unfold brought
  cases gateway.received? request with
  | none => exact allAcceptable_nil
  | some passed => exact acceptable passed

theorem allAcceptable_accepted (gateway : Gateway) (framing : Framing)
    (request : Http.Request) : AllAcceptable (gateway.accepted framing request) := by
  cases framing with
  | call => exact gateway.allAcceptable_brought request Rpc.allAcceptable_accepted
  | document =>
    unfold accepted
    cases Http.Route.ofPath? request.target.path with
    | none => exact allAcceptable_nil
    | some route =>
      exact gateway.allAcceptable_brought request (Http.Endpoint.allAcceptable_accepted route)

end Gateway

end Telemetry
