import Telemetry.Proofs.Merging
/-!
Requests on their way through a server. `Gateway.received?` is a request as the service sees it, if
it gets there, and `Gateway.sent` is what becomes of the answer; between them, the journal is the
only thing that changes besides what the service does (`Gateway.around_run`). A batch that gets
there is answered by a success or by a refusal for good, in either framing.
-/

namespace Telemetry

variable {σ : Type}

/-- The journal changes nothing but itself. -/
theorem Http.Journal.around_run (trace : String) {inner : Handler σ} {request : Request}
    {session after : Session σ} {response : Response}
    (answered : (inner request).run (session.log [requestEvent request]) = (response, after)) :
    ∃ events, (around trace inner request).run session =
      (noted (isCall request.headers) trace response, after.log events) := by
  refine ⟨[if isCall request.headers then callEvent response else responseEvent response], ?_⟩
  have whole : (around trace inner request).run session =
      match (inner request).run (session.log [requestEvent request]) with
      | (response, after) =>
        (noted (isCall request.headers) trace response, after.log
          [if isCall request.headers then callEvent response else responseEvent response]) := rfl
  rw [whole, answered]

namespace Gateway

/-- A request as it reaches the inner handler, if it is admitted and can be opened. -/
def received? (gateway : Gateway) (request : Http.Request) : Option Http.Request :=
  match gateway.trusted.check request.headers with
  | .error _ => none
  | .ok _ =>
    if longestRequest < request.body.length then none
    else
      match gateway.inbound.unwrap ⟨request.headers, request.body⟩ with
      | (some _, _) => none
      | (none, parcel) => some { request with headers := parcel.headers, body := parcel.body }

/-- The answer of the inner handler as it goes back to the caller. -/
def sent (gateway : Gateway) (framing : Framing) (trace : String) (request passed : Http.Request)
    (response : Http.Response) : Http.Response :=
  let noted := Http.Journal.noted (Http.Journal.isCall passed.headers) trace response
  match framing with
  | .call => noted
  | .document => gateway.sealResponse (acceptsPacked request.headers) noted

theorem received?_eq_some {gateway : Gateway} {request : Http.Request} {parcel : Parcel}
    (admitted : gateway.trusted.check request.headers = .ok ())
    (short : request.body.length ≤ longestRequest)
    (opened : gateway.inbound.unwrap ⟨request.headers, request.body⟩ = (none, parcel)) :
    gateway.received? request =
      some { request with headers := parcel.headers, body := parcel.body } := by
  simp only [received?, admitted, if_neg (Nat.not_lt.mpr short), opened]

/-- Behind the gateway stands any handler. What it answers to a call goes back as it is. -/
theorem admitting_opening_run {gateway : Gateway} {request passed : Http.Request}
    (received : gateway.received? request = some passed) (framing : Framing)
    {inner : Http.Handler σ} {session after : Session σ} {response : Http.Response}
    (answered : (inner passed).run session = (response, after)) :
    (gateway.admitting framing (gateway.opening framing inner) request).run session =
      (match framing with
        | .call => response
        | .document => gateway.sealResponse (acceptsPacked request.headers) response, after) := by
  simp only [received?] at received
  split at received
  · cases received
  · rename_i admitted
    split at received
    · cases received
    · rename_i short
      split at received
      · cases received
      · rename_i parcel opened
        cases received
        have inside : inner
            { request with headers := parcel.headers, body := parcel.body } session = _ := answered
        simp only [admitting, admitted, opening, if_neg short, opened, bind, StateT.bind,
          StateT.run, inside]
        cases framing <;> rfl

theorem around_run {gateway : Gateway} {request passed : Http.Request}
    (received : gateway.received? request = some passed) (framing : Framing) (trace : String)
    {inner : Http.Handler σ} {session after : Session σ} {response : Http.Response}
    (answered : (inner passed).run (session.log [Http.Journal.requestEvent passed]) =
      (response, after)) :
    ∃ events, (gateway.around framing trace inner request).run session =
      (gateway.sent framing trace request passed response, after.log events) := by
  obtain ⟨events, noted⟩ := Http.Journal.around_run trace answered
  refine ⟨events, (admitting_opening_run received framing noted).trans ?_⟩
  cases framing <;> rfl

/-- A response with its signature, before it is packed. -/
def signedParcel (secret : Bytes) (response : Http.Response) : Parcel :=
  Signature.sign secret ⟨response.headers, response.body⟩

/-- Where sealing is skipped, it would change nothing. -/
theorem sealResponse_eq (secret : Bytes) (key : Option Crypto.Rsa.PrivateKey)
    (trusted : TrustedSubnet) (packed : Bool) (response : Http.Response) :
    (Gateway.new secret key trusted).sealResponse packed response =
      let parcel := if packed then Compression.pack (signedParcel secret response)
        else signedParcel secret response
      { response with headers := parcel.headers, body := parcel.body } := by
  cases packed with
  | true => rfl
  | false =>
    cases secret with
    | nil => rfl
    | cons octet rest => rfl

theorem status_sealResponse (secret : Bytes) (key : Option Crypto.Rsa.PrivateKey)
    (trusted : TrustedSubnet) (packed : Bool) (response : Http.Response) :
    ((Gateway.new secret key trusted).sealResponse packed response).status =
      response.status := by
  rw [sealResponse_eq]

theorem status_sent (secret : Bytes) (key : Option Crypto.Rsa.PrivateKey)
    (trusted : TrustedSubnet) (framing : Framing) (trace : String)
    (request passed : Http.Request) (response : Http.Response) :
    ((Gateway.new secret key trusted).sent framing trace request passed response).status =
      response.status := by
  have noted : (Http.Journal.noted (Http.Journal.isCall passed.headers) trace response).status =
      response.status := by
    unfold Http.Journal.noted
    split <;> rfl
  cases framing with
  | call => exact noted
  | document => exact (status_sealResponse _ _ _ _ _).trans noted

end Gateway

theorem Application.document_run (application : Application σ) {request : Http.Request}
    {route : Http.Route} (routed : Http.Route.ofPath? request.target.path = some route)
    {trace : String} {session after : Session σ} {response : Http.Response}
    (around : (application.gateway.around .document trace
      (Http.Endpoint.handle application.service route) request).run session =
        (response, after)) :
    (application.document trace request).run session =
      (Http.Endpoint.finish route request.method response, after) := by
  simp only [document, routed, bind, StateT.bind, StateT.run]
  rw [show application.gateway.around .document trace
    (Http.Endpoint.handle application.service route) request session = _ from around]
  rfl

/-! ### Batches -/

def Http.Response.ofOutcome : Except ServiceError Unit → Http.Response
  | .ok _ => .bare 200
  | .error error => .ofServiceError error

def Rpc.ofOutcome : Except ServiceError Unit → Http.Response
  | .ok _ => replying (Frame.write Reply.nothing.toWire)
  | .error error => ending error.rpcStatus

variable {service : Service σ} {envelopes : List Envelope} {result : Except ServiceError Unit}
  {session after : Session σ}

theorem Http.Endpoint.respond_ok {work : Serving σ Response} {response : Response}
    (worked : work.run session = (.ok response, after)) :
    (respond work).run session = (response, after) := by
  simp only [respond, bind, StateT.bind, StateT.run]
  rw [show ExceptT.run work session = _ from worked]
  rfl

theorem Http.Endpoint.respond_error {work : Serving σ Response} {error : ServiceError}
    (failed : work.run session = (.error error, after)) :
    (respond work).run session = (Response.ofServiceError error, after) := by
  simp only [respond, bind, StateT.bind, StateT.run]
  rw [show ExceptT.run work session = _ from failed]
  rfl

theorem Http.Endpoint.updates_run {request : Request} (posted : request.method = "POST")
    (short : request.body.length ≤ longestDocument)
    (read : Envelope.readMany? request.body = some envelopes)
    (updated : (service.updateBatch envelopes).run session = (result, after)) :
    (handle service .updates request).run session = (Response.ofOutcome result, after) := by
  have allowed : Route.allows .updates request.method = true := by
    rw [posted]
    decide
  have answered : handle service .updates request =
      respond (do
        service.updateBatch envelopes
        return Response.bare 200) := by
    simp only [handle, allowed, if_true, Route.decode, answer, withDocument,
      if_neg (Nat.not_lt.mpr short), read]
  rw [answered]
  cases result with
  | ok done =>
    apply respond_ok
    rw [run_bind_ok _ updated]
    rfl
  | error error =>
    apply respond_error
    rw [run_bind_error _ updated]

/-- A request that states no encoding has none that is not taken. -/
theorem Rpc.unsupportedEncoding?_eq_none {headers : Headers}
    (plain : headers.values encodingHeader = []) : unsupportedEncoding? headers = none := by
  unfold unsupportedEncoding? Headers.get?
  rw [plain]
  rfl

theorem Rpc.updateMetrics_run {request : Http.Request}
    (called : request.target.path = Method.updateMetrics.path)
    (plain : request.headers.values encodingHeader = [])
    (framed : Frame.call .updateMetrics request.body = .ok (.updateMetrics envelopes))
    (updated : (service.updateBatch envelopes).run session = (result, after)) :
    (handle service request).run session = (ofOutcome result, after) := by
  have method : Method.ofPath? request.target.path = some .updateMetrics := by
    rw [called]
    decide
  have encoding := unsupportedEncoding?_eq_none plain
  have inside : ExceptT.run (service.updateBatch envelopes) session = (result, after) := updated
  simp only [handle, method, encoding, framed, perform, serve, bind, StateT.bind, StateT.run,
    ExceptT.bind, ExceptT.run, ExceptT.mk]
  rw [show service.updateBatch envelopes session = (result, after) from inside]
  cases result <;> rfl

end Telemetry
