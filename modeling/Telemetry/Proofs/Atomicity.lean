import Telemetry.Proofs.Responses
import Telemetry.Proofs.Visits
/-!
A request takes full effect or none. `Application.answer_full_or_none` says for every request, in
either framing, that the store is as it was if the answer is a failure, and that otherwise it holds
what the request carries, merged in its order, if the request is a write (`Http.Request.Carries`). A
batch is refused for the first of its envelopes that is invalid.

What a service makes of a write is decided by the envelopes alone (`Service.Decides`); everything
that can fail around it fails before the service is reached.
-/

namespace Telemetry

/-! ### What a request writes -/

def Http.Route.writes : Http.Route → Bool
  | .update | .updates | .updateWords .. => true
  | .index | .ping | .query | .queryWords .. => false

def Rpc.Method.writes : Rpc.Method → Bool
  | .updateMetric | .updateMetrics => true
  | .getMetric | .getMetrics | .ping => false

namespace Http.Request

/-- A request whose path leads to a write. -/
def writes (framing : Framing) (request : Request) : Bool :=
  match framing with
  | .document => (Route.ofPath? request.target.path).any Route.writes
  | .call => (Rpc.Method.ofPath? request.target.path).any Rpc.Method.writes

/-- A request that brings envelopes to be merged, whether or not they are valid. -/
inductive Brings (request : Request) : Framing → List Envelope → Prop
  | document {envelope : Envelope}
      (routed : Route.ofPath? request.target.path = some .update)
      (posted : request.method = "POST")
      (read : Endpoint.document? Envelope.read? request = some envelope) :
      Brings request .document [envelope]
  | documents {envelopes : List Envelope}
      (routed : Route.ofPath? request.target.path = some .updates)
      (posted : request.method = "POST")
      (read : Endpoint.document? Envelope.readMany? request = some envelopes) :
      Brings request .document envelopes
  | call {envelope : Envelope}
      (read : Rpc.called? request = some (.updateMetric (some envelope))) :
      Brings request .call [envelope]
  | calls {envelopes : List Envelope}
      (read : Rpc.called? request = some (.updateMetrics envelopes)) :
      Brings request .call envelopes

/-- A request that carries metrics to be merged in their order: one in each envelope that it
brings, or one in the words of its path. -/
inductive Carries (request : Request) : Framing → List Metric → Prop
  | envelopes {framing : Framing} {envelopes : List Envelope} {metrics : List Metric}
      (brings : request.Brings framing envelopes)
      (valid : envelopes.map Envelope.metric = metrics.map Except.ok) :
      Carries request framing metrics
  | words {route : Route} {kind name value : String} {metric : Metric}
      (routed : Route.ofPath? request.target.path = some route)
      (posted : request.method = "POST")
      (decoded : route.decode = .ok (.updateWords kind name value))
      (valid : Service.metricOfWords kind name value = .ok metric) :
      Carries request .document [metric]

variable {request : Request} {envelopes : List Envelope}

theorem Brings.posted (brings : request.Brings .document envelopes) : request.method = "POST" := by
  cases brings with
  | document routed posted read => exact posted
  | documents routed posted read => exact posted

theorem Brings.exists_route (brings : request.Brings .document envelopes) :
    ∃ route, Route.ofPath? request.target.path = some route := by
  cases brings with
  | document routed posted read => exact ⟨_, routed⟩
  | documents routed posted read => exact ⟨_, routed⟩

end Http.Request

/-- An answer that refuses a write for an error of a metric in it. -/
def Http.Response.Refuses (framing : Framing) (error : MetricError) (response : Http.Response) :
    Prop :=
  match framing with
  | .document => response.status = 400 ∧ response.plainBody? = some (Bytes.ofText error.message)
  | .call => Rpc.endedWith? response = some ⟨.invalidArgument, error.message⟩

namespace Envelope

/-- The error of a batch is that of its first invalid envelope. -/
theorem metrics_of_first {before rest : List Envelope} {bad : Envelope} {error : MetricError}
    (valid : ∀ envelope ∈ before, ∃ metric, envelope.metric = .ok metric)
    (invalid : bad.metric = .error error) : metrics (before ++ bad :: rest) = .error error := by
  unfold metrics
  induction before with
  | nil =>
    rw [List.nil_append, List.mapM_cons, invalid]
    rfl
  | cons envelope others ih =>
    obtain ⟨metric, read⟩ := valid envelope List.mem_cons_self
    rw [List.cons_append, List.mapM_cons, read,
      ih fun later member => valid later (List.mem_cons_of_mem _ member)]
    rfl

theorem metrics_singleton (envelope : Envelope) :
    metrics [envelope] = envelope.metric.map fun metric => [metric] := by
  rw [metrics, List.mapM_cons]
  cases envelope.metric <;> rfl

theorem accepted_of_ok {envelopes : List Envelope} {found : List Metric}
    (read : metrics envelopes = .ok found) : accepted envelopes = found := by
  rw [accepted, read]

theorem accepted_of_error {envelopes : List Envelope} {error : MetricError}
    (refused : metrics envelopes = .error error) : accepted envelopes = [] := by
  rw [accepted, refused]

end Envelope

/-! ### What decides about a write -/

section Deciding

variable {σ α β : Type} {work : Serving σ α} {result : Except MetricError β}
  {session : Session σ}

/-- Work that is done unless the metrics in question are invalid, and then leaves the session as it
is. -/
structure Service.Decides (work : Serving σ α) (result : Except MetricError β)
    (session : Session σ) : Prop where
  refuses : ∀ error, result = .error error →
    work.run session = (.error (.invalid error), session)
  serves : ∀ value, result = .ok value → ∃ answer after, work.run session = (.ok answer, after)

theorem Http.Endpoint.respond_refuses (decides : Service.Decides work result session)
    (form : α → Response) {error : MetricError} (refused : result = .error error) :
    (respond (work >>= fun answer => pure (form answer))).run session =
      (Response.ofServiceError (.invalid error), session) :=
  respond_error (run_bind_error _ (decides.refuses error refused))

theorem Http.Endpoint.respond_serves (decides : Service.Decides work result session)
    (form : α → Response) {value : β} (valid : result = .ok value) :
    ∃ answer after, (respond (work >>= fun answer => pure (form answer))).run session =
      (form answer, after) := by
  obtain ⟨answer, after, worked⟩ := decides.serves value valid
  exact ⟨answer, after, respond_ok (run_bind_ok _ worked)⟩

theorem Rpc.serve_refuses (decides : Service.Decides work result session)
    (form : α → Reply) {error : MetricError} (refused : result = .error error) :
    (serve work >>= fun answer => pure (form answer)).run session =
      (.error ⟨.invalidArgument, error.message⟩, session) := by
  apply run_bind_error
  rw [serve_run, decides.refuses error refused]
  rfl

theorem Rpc.serve_serves (decides : Service.Decides work result session)
    (form : α → Reply) {value : β} (valid : result = .ok value) :
    ∃ answer after, (serve work >>= fun answer => pure (form answer)).run session =
      (.ok (form answer), after) := by
  obtain ⟨answer, after, worked⟩ := decides.serves value valid
  have served : (serve work).run session = (.ok answer, after) := by
    rw [serve_run, worked]
    rfl
  exact ⟨answer, after, run_bind_ok _ served⟩

/-- Where documents are taken, what decides about the work decides about the answer. -/
theorem Http.Endpoint.handle_decides {δ : Type} (service : Service σ) (route : Route)
    {read? : Bytes → Option δ} {works : δ → Serving σ α} (form : α → Response)
    (plain : route.decode = .ok route) (posts : route.isRead = false)
    (answers : ∀ request, answer service request route = withDocument read? request fun document =>
      works document >>= fun answer => pure (form answer))
    {request : Request} (posted : request.method = "POST") {document : δ}
    (read : document? read? request = some document)
    (decides : Service.Decides (works document) result session) :
    (∀ error, result = .error error → (handle service route request).run session =
      (Response.ofServiceError (.invalid error), session)) ∧
    ∀ value, result = .ok value → ∃ answer after,
      (handle service route request).run session = (form answer, after) := by
  rw [handle_read service route plain posts answers posted read]
  constructor
  · intro error refused
    exact respond_refuses decides form refused
  · intro value valid
    exact respond_serves decides form valid

/-- What decides about the work of a call decides about its answer. -/
theorem Rpc.handle_decides {service : Service σ} {request : Http.Request} {call : Call}
    (read : called? request = some call) (form : α → Reply)
    (performs : perform service call = serve work >>= fun answer => pure (form answer))
    (decides : Service.Decides work result session) :
    (∀ error, result = .error error → (handle service request).run session =
      (ending ⟨.invalidArgument, error.message⟩, session)) ∧
    ∀ value, result = .ok value → ∃ answer after, (handle service request).run session =
      (replying (Frame.write (form answer).toWire), after) := by
  rw [handle_some read, performs]
  constructor
  · intro error refused
    rw [serve_refuses decides form refused]
  · intro value valid
    obtain ⟨answer, after, served⟩ := serve_serves decides form valid
    rw [served]
    exact ⟨answer, after, rfl⟩

end Deciding

/-! ### Documents -/

namespace Http.Route

/-- Words are decoded to words. -/
theorem decode_updateWords {kind name value : String} {route : Route}
    (decoded : decode (.updateWords kind name value) = .ok route) :
    ∃ kindText nameText valueText, route = .updateWords kindText nameText valueText := by
  simp only [decode] at decoded
  cases first : decodeWord "kind" kind with
  | error unreadable =>
    rw [first] at decoded
    cases decoded
  | ok kindText =>
    rw [first] at decoded
    cases second : decodeWord "name" name with
    | error unreadable =>
      rw [second] at decoded
      cases decoded
    | ok nameText =>
      rw [second] at decoded
      cases third : decodeWord "value" value with
      | error unreadable =>
        rw [third] at decoded
        cases decoded
      | ok valueText =>
        rw [third] at decoded
        cases decoded
        exact ⟨_, _, _, rfl⟩

end Http.Route

namespace Http.Endpoint

theorem accepted_of_read {route : Route} (reads : route.writes = false) (request : Request) :
    accepted route request = [] := by
  unfold accepted
  split
  · cases route with
    | index => rfl
    | ping => rfl
    | query => rfl
    | queryWords kind name =>
      simp only [Route.decode]
      cases Route.decodeWord "kind" kind with
      | error failed => rfl
      | ok kind => cases Route.decodeWord "name" name <;> rfl
    | update => cases reads
    | updates => cases reads
    | updateWords kind name value => cases reads
  · rfl

/-- How a request for a document ends: as a failure that takes nothing, or as a success that takes
what the request carries. -/
def Settles (service : Service ServerStore) (route : Route) (request : Request)
    (session : Session ServerStore) : Prop :=
  ∃ response after, (handle service route request).run session = (response, after) ∧
    (400 ≤ response.status ∧ accepted route request = [] ∨
      response.status < 400 ∧
        (route.writes = true → request.Carries .document (accepted route request)))

theorem settles_of_read {service : Service ServerStore} {route : Route}
    (reads : route.writes = false) (request : Request) (session : Session ServerStore) :
    Settles service route request session := by
  refine ⟨_, _, rfl, ?_⟩
  rw [accepted_of_read reads]
  by_cases refused : 400 ≤ ((handle service route request).run session).1.status
  · exact .inl ⟨refused, rfl⟩
  · refine .inr ⟨Nat.lt_of_not_le refused, ?_⟩
    rw [reads]
    exact nofun

theorem settles_of_unread {α : Type} {service : Service ServerStore} {route : Route}
    {read? : Bytes → Option α} {work : α → Serving ServerStore Response} {request : Request}
    (plain : route.decode = .ok route) (posts : route.isRead = false)
    (answers : ∀ request, answer service request route = withDocument read? request work)
    (unread : request.method = "POST" → document? read? request = none)
    (session : Session ServerStore)
    (nothing : request.method = "POST" → acceptedBy request route = []) :
    Settles service route request session := by
  obtain ⟨response, handled, refused⟩ :=
    handle_unread service route plain posts answers unread session
  refine ⟨response, session, handled, .inl ⟨refused, ?_⟩⟩
  unfold accepted
  rw [Route.allows_of_posts posts, plain]
  by_cases posted : request.method = "POST"
  · rw [if_pos (beq_iff_eq.mpr posted)]
    exact nothing posted
  · rw [if_neg (by simpa using posted)]

end Http.Endpoint

/-! ### Calls -/

namespace Rpc

/-- How a call ends: as a failure that takes nothing, or as a success that takes what the request
carries. -/
def Settles (service : Service ServerStore) (request : Http.Request)
    (session : Session ServerStore) : Prop :=
  ∃ response after, (handle service request).run session = (response, after) ∧
    ((∃ status, States response.headers status ∧ status.code ≠ .ok) ∧ accepted request = [] ∨
      (∃ message, response = replying message) ∧
        (request.writes .call = true → request.Carries .call (accepted request)))

theorem accepted_of_read {request : Http.Request} (reads : request.writes .call = false) :
    accepted request = [] := by
  rw [accepted_eq]
  cases read : called? request with
  | none => rfl
  | some call =>
    have method : call.method.writes = false := by
      rwa [Http.Request.writes, method_of_called? read] at reads
    cases call with
    | getMetric query => rfl
    | getMetrics => rfl
    | ping => rfl
    | updateMetric envelope => cases method
    | updateMetrics envelopes => cases method

theorem settles_of_read {service : Service ServerStore} {request : Http.Request} {call : Call}
    (read : called? request = some call) (reads : call.method.writes = false)
    (session : Session ServerStore) : Settles service request session := by
  have pathReads : request.writes .call = false := by
    rw [Http.Request.writes, method_of_called? read]
    exact reads
  unfold Settles
  rw [handle_some read, accepted_of_read pathReads]
  cases performed : (perform service call).run session with
  | mk result after =>
    cases result with
    | error status =>
      exact ⟨_, _, rfl, .inl ⟨⟨status, states_ending status,
        code_ne_ok_of_perform performed⟩, rfl⟩⟩
    | ok reply =>
      refine ⟨_, _, rfl, .inr ⟨⟨_, rfl⟩, ?_⟩⟩
      rw [pathReads]
      exact nofun

end Rpc

section Writes

variable (backoff : Backoff) {keepsFile : Bool} {session : Session ServerStore}
  {host : FiledStore} (able : host.CanKeep keepsFile) (held : session.store = .memory host)

include able held

namespace Service

theorem updateOne_decides (envelope : Envelope) :
    Decides ((server backoff keepsFile).updateOne envelope) (Envelope.metrics [envelope])
      session := by
  have whole : ((server backoff keepsFile).updateOne envelope).run session = _ :=
    updateOne_eq able held envelope
  rw [Envelope.metrics_singleton]
  cases read : envelope.metric with
  | error error =>
    rw [read] at whole
    refine ⟨?_, nofun⟩
    rintro _ ⟨⟩
    exact whole
  | ok metric =>
    rw [read] at whole
    refine ⟨nofun, ?_⟩
    rintro _ ⟨⟩
    exact ⟨_, _, whole⟩

theorem updateBatch_decides (envelopes : List Envelope) :
    Decides ((server backoff keepsFile).updateBatch envelopes) (Envelope.metrics envelopes)
      session := by
  have whole : ((server backoff keepsFile).updateBatch envelopes).run session = _ :=
    updateBatch_eq able held envelopes
  constructor
  · intro error refused
    rwa [refused] at whole
  · intro metrics valid
    rw [valid] at whole
    exact ⟨_, _, whole⟩

theorem updateWords_decides (kind name value : String) :
    Decides ((server backoff keepsFile).updateWords kind name value)
      (metricOfWords kind name value) session := by
  have whole : ((server backoff keepsFile).updateWords kind name value).run session = _ :=
    updateWords_eq able held kind name value
  constructor
  · intro error refused
    rwa [refused] at whole
  · intro metric valid
    rw [valid] at whole
    exact ⟨_, _, whole⟩

end Service

namespace Http.Endpoint

/-- What a document brings decides about the answer. -/
theorem handle_brings {route : Route} {request : Request} {envelopes : List Envelope}
    (routed : Route.ofPath? request.target.path = some route)
    (brings : request.Brings .document envelopes) :
    accepted route request = Envelope.accepted envelopes ∧
    (∀ error, Envelope.metrics envelopes = .error error →
      (handle (Service.server backoff keepsFile) route request).run session =
        (Response.ofServiceError (.invalid error), session)) ∧
    ∀ metrics, Envelope.metrics envelopes = .ok metrics → ∃ response after,
      (handle (Service.server backoff keepsFile) route request).run session =
        (response, after) ∧ response.status < 400 := by
  cases brings with
  | document here posted read =>
    rename_i envelope
    obtain rfl : route = .update := Option.some.inj (routed.symm.trans here)
    obtain ⟨refuses, serves⟩ := handle_decides (Service.server backoff keepsFile) .update
      envelopeResponse rfl rfl (fun _request => rfl) posted read
      (Service.updateOne_decides backoff able held envelope)
    refine ⟨?_, refuses, ?_⟩
    · simp only [accepted, Route.allows, posted, acceptedBy, Route.decode, read]
      rfl
    · intro metrics valid
      obtain ⟨answer, after, handled⟩ := serves metrics valid
      exact ⟨_, after, handled, (by decide : 200 < 400)⟩
  | documents here posted read =>
    obtain rfl : route = .updates := Option.some.inj (routed.symm.trans here)
    obtain ⟨refuses, serves⟩ := handle_decides (Service.server backoff keepsFile) .updates
      (fun _done => Response.bare 200) rfl rfl (fun _request => rfl) posted read
      (Service.updateBatch_decides backoff able held envelopes)
    refine ⟨?_, refuses, ?_⟩
    · simp only [accepted, Route.allows, posted, acceptedBy, Route.decode, read]
      rfl
    · intro metrics valid
      obtain ⟨answer, after, handled⟩ := serves metrics valid
      exact ⟨_, after, handled, by decide⟩

theorem settles_of_brings {route : Route} {request : Request} {envelopes : List Envelope}
    (routed : Route.ofPath? request.target.path = some route)
    (brings : request.Brings .document envelopes) :
    Settles (Service.server backoff keepsFile) route request session := by
  obtain ⟨taken, refuses, serves⟩ := handle_brings backoff able held routed brings
  unfold Settles
  rw [taken]
  cases read : Envelope.metrics envelopes with
  | error error =>
    have invalid : 400 ≤ (Response.ofServiceError (.invalid error)).status :=
      ServiceError.refused (.invalid error)
    exact ⟨_, _, refuses error read, .inl ⟨invalid, Envelope.accepted_of_error read⟩⟩
  | ok metrics =>
    obtain ⟨response, after, handled, success⟩ := serves metrics read
    refine ⟨response, after, handled, .inr ⟨success, fun _writes => ?_⟩⟩
    rw [Envelope.accepted_of_ok read]
    exact .envelopes brings (Envelope.map_metric_of_metrics read)

theorem settles_update {request : Request}
    (routed : Route.ofPath? request.target.path = some .update) :
    Settles (Service.server backoff keepsFile) .update request session := by
  rcases document?_cases Envelope.read? request with ⟨posted, envelope, read⟩ | unread
  · exact settles_of_brings backoff able held routed (.document routed posted read)
  · refine settles_of_unread rfl rfl (fun _request => rfl) unread session ?_
    intro posted
    rw [acceptedBy, unread posted]
    rfl

theorem settles_updates {request : Request}
    (routed : Route.ofPath? request.target.path = some .updates) :
    Settles (Service.server backoff keepsFile) .updates request session := by
  rcases document?_cases Envelope.readMany? request with ⟨posted, envelopes, read⟩ | unread
  · exact settles_of_brings backoff able held routed (.documents routed posted read)
  · refine settles_of_unread rfl rfl (fun _request => rfl) unread session ?_
    intro posted
    rw [acceptedBy, unread posted]
    rfl

theorem settles_updateWords {request : Request} {kind name value : String}
    (routed : Route.ofPath? request.target.path = some (.updateWords kind name value)) :
    Settles (Service.server backoff keepsFile) (.updateWords kind name value) request
      session := by
  unfold Settles handle accepted
  by_cases posted : request.method = "POST"
  · have allows : Route.allows (.updateWords kind name value) request.method = true := by
      rw [posted]
      rfl
    rw [if_pos allows, if_pos allows]
    cases decoded : Route.decode (.updateWords kind name value) with
    | error unreadable => exact ⟨_, _, rfl, .inl ⟨Nat.le_refl 400, rfl⟩⟩
    | ok route =>
      obtain ⟨kindText, nameText, valueText, rfl⟩ := Route.decode_updateWords decoded
      have decides := Service.updateWords_decides backoff able held
        kindText nameText valueText
      simp only [acceptedBy]
      cases read : Service.metricOfWords kindText nameText valueText with
      | error error =>
        have refused := respond_refuses decides (fun _done => Response.bare 200) read
        exact ⟨_, _, refused, .inl ⟨ServiceError.refused (.invalid error), rfl⟩⟩
      | ok metric =>
        obtain ⟨answer, after, responded⟩ :=
          respond_serves decides (fun _done => Response.bare 200) read
        exact ⟨_, after, responded,
          .inr ⟨by decide, fun _writes => .words routed posted decoded read⟩⟩
  · have refused : ¬ Route.allows (.updateWords kind name value) request.method = true := by
      simpa [Route.allows, Route.isRead] using posted
    rw [if_neg refused, if_neg refused]
    exact ⟨_, _, rfl, .inl ⟨by decide, rfl⟩⟩

/-- Every request for a document settles. -/
theorem settles {route : Route} {request : Request}
    (routed : Route.ofPath? request.target.path = some route) :
    Settles (Service.server backoff keepsFile) route request session := by
  cases route with
  | update => exact settles_update backoff able held routed
  | updates => exact settles_updates backoff able held routed
  | updateWords kind name value => exact settles_updateWords backoff able held routed
  | index => exact settles_of_read rfl request session
  | ping => exact settles_of_read rfl request session
  | query => exact settles_of_read rfl request session
  | queryWords kind name => exact settles_of_read rfl request session

end Http.Endpoint

namespace Rpc

/-- What a call brings decides about the answer. -/
theorem handle_brings {request : Http.Request} {envelopes : List Envelope}
    (brings : request.Brings .call envelopes) :
    accepted request = Envelope.accepted envelopes ∧
    (∀ error, Envelope.metrics envelopes = .error error →
      (handle (Service.server backoff keepsFile) request).run session =
        (ending ⟨.invalidArgument, error.message⟩, session)) ∧
    ∀ metrics, Envelope.metrics envelopes = .ok metrics → ∃ message after,
      (handle (Service.server backoff keepsFile) request).run session =
        (replying message, after) := by
  rw [accepted_eq]
  cases brings with
  | call read =>
    obtain ⟨refuses, serves⟩ := handle_decides read Reply.metric rfl
      (Service.updateOne_decides backoff able held _)
    rw [read]
    refine ⟨rfl, refuses, ?_⟩
    intro metrics valid
    obtain ⟨answer, after, handled⟩ := serves metrics valid
    exact ⟨_, after, handled⟩
  | calls read =>
    obtain ⟨refuses, serves⟩ := handle_decides read (fun _done => Reply.nothing) rfl
      (Service.updateBatch_decides backoff able held envelopes)
    rw [read]
    refine ⟨rfl, refuses, ?_⟩
    intro metrics valid
    obtain ⟨answer, after, handled⟩ := serves metrics valid
    exact ⟨_, after, handled⟩

theorem settles_of_brings {request : Http.Request} {envelopes : List Envelope}
    (brings : request.Brings .call envelopes) :
    Settles (Service.server backoff keepsFile) request session := by
  obtain ⟨taken, refuses, serves⟩ := handle_brings backoff able held brings
  unfold Settles
  rw [taken]
  cases read : Envelope.metrics envelopes with
  | error error =>
    exact ⟨_, _, refuses error read,
      .inl ⟨⟨_, states_ending _, nofun⟩, Envelope.accepted_of_error read⟩⟩
  | ok metrics =>
    obtain ⟨message, after, handled⟩ := serves metrics read
    refine ⟨_, after, handled, .inr ⟨⟨message, rfl⟩, fun _writes => ?_⟩⟩
    rw [Envelope.accepted_of_ok read]
    exact .envelopes brings (Envelope.map_metric_of_metrics read)

/-- Every call settles. -/
theorem settles (request : Http.Request) :
    Settles (Service.server backoff keepsFile) request session := by
  cases read : called? request with
  | none =>
    obtain ⟨response, status, handled, states, bad⟩ := handle_none read
    have nothing : accepted request = [] := by rw [accepted_eq, read]
    exact ⟨response, _, handled, .inl ⟨⟨status, states, bad⟩, nothing⟩⟩
  | some call =>
    cases call with
    | updateMetric envelope =>
      cases envelope with
      | none =>
        have nothing : accepted request = [] := by
          rw [accepted_eq, read]
          rfl
        exact ⟨_, _, handle_some read,
          .inl ⟨⟨metricRequired, states_ending metricRequired, nofun⟩, nothing⟩⟩
      | some envelope => exact settles_of_brings backoff able held (.call read)
    | updateMetrics envelopes => exact settles_of_brings backoff able held (.calls read)
    | getMetric query => exact settles_of_read read rfl session
    | getMetrics => exact settles_of_read read rfl session
    | ping => exact settles_of_read read rfl session

end Rpc

end Writes

/-! ### Requests -/

namespace Gateway

theorem accepted_of_none {gateway : Gateway} {request : Http.Request}
    (turnedAway : gateway.received? request = none) (framing : Framing) :
    gateway.accepted framing request = [] := by
  have nothing : ∀ read, gateway.brought request read = [] := by
    intro read
    rw [brought, turnedAway]
  cases framing with
  | call => exact nothing _
  | document =>
    unfold accepted
    cases Http.Route.ofPath? request.target.path with
    | none => rfl
    | some route => exact nothing _

theorem accepted_of_received {gateway : Gateway} {request passed : Http.Request}
    (received : gateway.received? request = some passed) (framing : Framing) :
    gateway.accepted framing request =
      match framing with
      | .call => Rpc.accepted passed
      | .document =>
        match Http.Route.ofPath? passed.target.path with
        | none => []
        | some route => Http.Endpoint.accepted route passed := by
  rw [(received?_same received).1]
  cases framing with
  | call => simp only [accepted, brought, received]
  | document =>
    unfold accepted
    cases Http.Route.ofPath? request.target.path with
    | none => rfl
    | some route => simp only [brought, received]

theorem accepted_of_read (gateway : Gateway) {framing : Framing} {request : Http.Request}
    (reads : request.writes framing = false) : gateway.accepted framing request = [] := by
  cases received : gateway.received? request with
  | none => exact accepted_of_none received framing
  | some passed =>
    rw [accepted_of_received received]
    unfold Http.Request.writes at reads
    rw [← (received?_same received).1] at reads
    cases framing with
    | call => exact Rpc.accepted_of_read reads
    | document =>
      cases routed : Http.Route.ofPath? passed.target.path with
      | none => rfl
      | some route =>
        rw [routed] at reads
        exact Http.Endpoint.accepted_of_read reads passed

end Gateway

/-- What is needed of a file so that saves succeed is still there after a save. -/
theorem SnapshotFile.lasts_canKeep (keepsFile : Bool) :
    Lasts fun file => keepsFile = true → ∃ found, file = some found ∧ found.isWritable = true := by
  intro store file written able saved keeps
  obtain ⟨found, same, writable⟩ := able keeps
  obtain rfl := Option.some.inj same
  rw [MemoryStore.save_eq store writable] at saved
  cases saved
  exact ⟨_, rfl, rfl⟩

namespace Application

variable (secret : Bytes) (key : Option Crypto.Rsa.PrivateKey) (trusted : TrustedSubnet)
  (backoff : Backoff) (keepsFile : Bool)
  {session : Session ServerStore} {host : FiledStore}

/-- A failure takes nothing, and a write that succeeds takes what it carries. -/
theorem answer_settles (able : host.CanKeep keepsFile) (held : session.store = .memory host)
    (framing : Framing) (trace : String) (request : Http.Request) :
    ∃ response after,
      ((server (.new secret key trusted) backoff keepsFile).answer framing trace request).run
        session = (response, after) ∧
      (response.Fails framing ∧ (Gateway.new secret key trusted).accepted framing request = [] ∨
        ¬ response.Fails framing ∧ (request.writes framing = true → ∃ passed,
          (Gateway.new secret key trusted).received? request = some passed ∧
          passed.Carries framing
            ((Gateway.new secret key trusted).accepted framing request))) := by
  rcases answer_cases (server (.new secret key trusted) backoff keepsFile) framing trace request
    session with ⟨turnedAway, response, answered, fails⟩ |
      ⟨passed, response, after, events, received, handled, answered⟩
  · exact ⟨response, session, answered,
      .inl ⟨fails, Gateway.accepted_of_none turnedAway framing⟩⟩
  · rw [gateway_server] at received answered
    rw [answered, Gateway.accepted_of_received received framing]
    have logged : (session.log [Http.Journal.requestEvent passed]).store = .memory host := held
    have sameWrites : request.writes framing = passed.writes framing := by
      unfold Http.Request.writes
      rw [(Gateway.received?_same received).1]
    refine ⟨_, _, rfl, ?_⟩
    rw [sameWrites]
    cases framing with
    | call =>
      obtain ⟨_, _, settled, outcome⟩ := Rpc.settles backoff able logged passed
      obtain ⟨rfl, rfl⟩ := Prod.mk.inj (handled.symm.trans settled)
      rcases outcome with ⟨⟨status, states, bad⟩, nothing⟩ | ⟨⟨message, rfl⟩, carries⟩
      · exact .inl ⟨.inr ⟨rfl, status, Rpc.endedWith?_noted trace states _, bad⟩, nothing⟩
      · exact .inr ⟨not_fails_sent_replying trace request passed _ message,
          fun writes => ⟨passed, received, carries writes⟩⟩
    | document =>
      rw [fails_sent_document_iff]
      cases routed : Http.Route.ofPath? passed.target.path with
      | none =>
        simp only [inner, routed] at handled
        cases handled
        exact .inl ⟨by decide, rfl⟩
      | some route =>
        simp only [inner, routed] at handled
        obtain ⟨_, _, settled, outcome⟩ :=
          Http.Endpoint.settles backoff able logged routed
        obtain ⟨rfl, rfl⟩ := Prod.mk.inj (handled.symm.trans settled)
        rcases outcome with ⟨refused, nothing⟩ | ⟨success, carries⟩
        · exact .inl ⟨refused, nothing⟩
        · refine .inr ⟨Nat.not_le.mpr success, fun writes => ⟨passed, received, carries ?_⟩⟩
          rwa [Http.Request.writes, routed] at writes

/-- A batch is refused for the first of its envelopes that is invalid. -/
theorem answer_refuses (able : host.CanKeep keepsFile) (held : session.store = .memory host)
    (framing : Framing) (trace : String) {request passed : Http.Request}
    (received : (Gateway.new secret key trusted).received? request = some passed)
    {envelopes : List Envelope} (brings : passed.Brings framing envelopes) {error : MetricError}
    (refused : Envelope.metrics envelopes = .error error) :
    (Gateway.new secret key trusted).accepted framing request = [] ∧
      (((server (.new secret key trusted) backoff keepsFile).answer framing trace request).run
        session).1.Refuses framing error := by
  have logged : (session.log [Http.Journal.requestEvent passed]).store = .memory host := held
  rw [Gateway.accepted_of_received received framing]
  rcases answer_cases (server (.new secret key trusted) backoff keepsFile) framing trace request
    session with ⟨turnedAway, _⟩ | ⟨arrived, response, after, events, same, handled, answered⟩
  · rw [gateway_server, received] at turnedAway
    cases turnedAway
  · rw [gateway_server] at same answered
    obtain rfl : passed = arrived := Option.some.inj (received.symm.trans same)
    rw [answered]
    cases framing with
    | call =>
      obtain ⟨taken, refuses, _serves⟩ := Rpc.handle_brings backoff able logged brings
      obtain ⟨rfl, rfl⟩ := Prod.mk.inj (handled.symm.trans (refuses error refused))
      exact ⟨taken.trans (Envelope.accepted_of_error refused),
        Rpc.endedWith?_noted trace (Rpc.states_ending _) _⟩
    | document =>
      obtain ⟨route, routed⟩ := brings.exists_route
      simp only [inner, routed] at handled ⊢
      obtain ⟨taken, refuses, _serves⟩ :=
        Http.Endpoint.handle_brings backoff able logged routed brings
      obtain ⟨rfl, rfl⟩ := Prod.mk.inj (handled.symm.trans (refuses error refused))
      refine ⟨taken.trans (Envelope.accepted_of_error refused), ?_, ?_⟩
      · rw [status_finished, Gateway.status_sent]
        rfl
      · exact plainBody?_sent secret key trusted trace request passed rfl brings.posted

/-- A request takes full effect or none: the store is as it was if the answer is a failure or the
request is a read, and else it is what it was with the metrics of the request merged in their
order. -/
theorem answer_full_or_none (session : Session ServerStore) (host : FiledStore)
    (able : host.CanKeep keepsFile) (held : session.store = .memory host) (framing : Framing)
    (trace : String) (request : Http.Request) :
    ∃ response after kept,
      ((server (.new secret key trusted) backoff keepsFile).answer framing trace request).run
        session = (response, after) ∧
      after.store = .memory kept ∧ kept.CanKeep keepsFile ∧
      (response.Fails framing → kept.store = host.store) ∧
      (¬ response.Fails framing →
        if request.writes framing then
          ∃ passed metrics, (Gateway.new secret key trusted).received? request = some passed ∧
            passed.Carries framing metrics ∧ kept.store = host.store.merge metrics
        else kept.store = host.store) ∧
      ∀ passed before bad rest error,
        (Gateway.new secret key trusted).received? request = some passed →
        passed.Brings framing (before ++ bad :: rest) →
        (∀ envelope ∈ before, ∃ metric, envelope.metric = .ok metric) →
        bad.metric = .error error →
        kept.store = host.store ∧ response.Refuses framing error := by
  obtain ⟨store, file⟩ := host
  obtain ⟨response, after, answered, settled⟩ :=
    answer_settles secret key trusted backoff keepsFile able held framing trace request
  obtain ⟨next, stored, stillAble⟩ :=
    answer_leads (.new secret key trusted) backoff keepsFile (SnapshotFile.lasts_canKeep keepsFile)
      store framing trace request session ⟨file, held, able⟩
  rw [answered] at stored
  refine ⟨response, after, _, answered, stored, stillAble, ?_, ?_, ?_⟩
  · intro fails
    rcases settled with ⟨_fails, nothing⟩ | ⟨succeeds, _carries⟩
    · rw [nothing]
      rfl
    · exact absurd fails succeeds
  · intro succeeds
    rcases settled with ⟨fails, _nothing⟩ | ⟨_succeeds, carries⟩
    · exact absurd fails succeeds
    · by_cases writes : request.writes framing = true
      · rw [if_pos writes]
        obtain ⟨passed, received, carried⟩ := carries writes
        exact ⟨passed, _, received, carried, rfl⟩
      · rw [if_neg writes, Gateway.accepted_of_read _ (by simpa using writes)]
        rfl
  · intro passed before bad rest error received brings valid invalid
    obtain ⟨nothing, refuses⟩ := answer_refuses secret key trusted backoff keepsFile able held
      framing trace received brings (Envelope.metrics_of_first valid invalid)
    rw [answered] at refuses
    rw [nothing]
    exact ⟨rfl, refuses⟩

/-- A counter, one without a name and one of a kind that is none. -/
def spoiltEnvelopes : List Envelope :=
  [⟨"Hits", "counter", none, some 1⟩, ⟨"", "counter", none, some 2⟩, ⟨"Load", "level", none, none⟩]

def spoiltRequest : Http.Request :=
  ⟨"POST", ⟨"/updates/", "/updates/"⟩, .empty, Envelope.writeMany spoiltEnvelopes⟩

def savedHost : FiledStore := ⟨.empty, some ⟨"metrics.json", .missing⟩⟩

theorem brings_spoiltRequest : spoiltRequest.Brings .document spoiltEnvelopes :=
  .documents (by decide +kernel) rfl (by decide +kernel)

/-- The batch is refused for the counter without a name, which comes first. -/
theorem answer_full_or_none_spoiltRequest :
    ∃ response after kept,
      ((server (.new [] none ⟨none⟩) .standard true).answer .document "1" spoiltRequest).run
        ⟨.memory savedHost, 0, []⟩ = (response, after) ∧
      after.store = .memory kept ∧ kept.store = .empty ∧
      response.Refuses .document (.invalidName "") := by
  have able : savedHost.CanKeep true := fun _keeps => ⟨_, rfl, rfl⟩
  obtain ⟨response, after, kept, answered, stored, _able, _none, _full, refuses⟩ :=
    answer_full_or_none [] none ⟨none⟩ .standard true ⟨.memory savedHost, 0, []⟩ savedHost able rfl
      .document "1" spoiltRequest
  have received : (Gateway.new [] none ⟨none⟩).received? spoiltRequest = some spoiltRequest := by
    decide +kernel
  have valid : ∀ envelope ∈ [(⟨"Hits", "counter", none, some 1⟩ : Envelope)],
      ∃ metric, envelope.metric = .ok metric := by
    intro envelope member
    obtain rfl := List.mem_singleton.mp member
    exact ⟨.counter "Hits" 1, by decide +kernel⟩
  obtain ⟨unchanged, refused⟩ := refuses spoiltRequest
    [⟨"Hits", "counter", none, some 1⟩] ⟨"", "counter", none, some 2⟩
    [⟨"Load", "level", none, none⟩] (.invalidName "") received brings_spoiltRequest valid
    (by decide +kernel)
  exact ⟨response, after, kept, answered, stored, unchanged, refused⟩

end Application

end Telemetry
