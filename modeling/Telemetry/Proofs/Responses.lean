import Telemetry.Proofs.Acceptance
import Telemetry.Proofs.Sealing
/-!
What a caller learns from an answer, and how an answer comes about. A request either does not get
through the gateway, which is a failure and does nothing, or its answer is that of the inner handler
on its way back (`Application.answer_cases`). On that way nothing is lost: neither whether it is a
failure (`Http.Response.Fails`), nor how a call ended (`Rpc.States`), nor a plain body
(`Http.Response.plainBody?`).
-/

namespace Telemetry

variable {σ : Type}

/-! ### How a call ended -/

theorem Http.Percent.isVisible_encode (octets : Bytes) :
    (encode octets).all Headers.isVisible = true := by
  have digits : ∀ value < 16, Headers.isVisible (digit value) = true := by decide
  rw [encode, List.all_flatMap, List.all_eq_true]
  intro octet _member
  by_cases plain : isPlain octet = true
  · rw [if_pos plain, List.all_cons, List.all_nil, Bool.and_true]
    simp only [isPlain, Bool.and_eq_true, decide_eq_true_eq, UInt8.lt_iff_toNat_lt] at plain
    simp only [Headers.isVisible, Bool.or_eq_true, Bool.and_eq_true, decide_eq_true_eq,
      UInt8.le_iff_toNat_le, UInt8.lt_iff_toNat_lt]
    exact .inr ⟨Nat.le_of_lt plain.1.1, plain.1.2⟩
  · have bound := octet.toNat_lt
    have upper := digits (octet.toNat / 16) (by omega)
    have lower := digits (octet.toNat % 16) (by omega)
    rw [if_neg plain, List.all_cons, List.all_cons, List.all_cons, upper, lower]
    decide

theorem Http.Percent.exists_visible?_encode (text : String) :
    ∃ shown, Headers.visible? (encode (Bytes.ofText text)) = some shown ∧
      text? shown = some text := by
  have seen : Headers.visible? (encode (Bytes.ofText text)) = _ := if_pos (isVisible_encode _)
  refine ⟨_, seen, ?_⟩
  rw [text?, Headers.ofText_of_visible? seen, decode_encode, Bytes.text?_ofText]

namespace Rpc

/-- Headers that state how a call ended, and nothing else under the same names. -/
structure States (headers : Headers) (status : Status) : Prop where
  number : headers.values statusHeader = [Bytes.ofText (Nat.repr status.code.number)]
  message : headers.values messageHeader =
    if status.message.isEmpty then [] else [Http.Percent.encode (Bytes.ofText status.message)]

variable {headers : Headers} {status : Status}

theorem visible?_repr_number (code : Code) :
    Headers.visible? (Bytes.ofText (Nat.repr code.number)) = some (Nat.repr code.number) := by
  cases code <;> decide

theorem States.statedStatus? (states : States headers status) :
    Rpc.statedStatus? headers = some status := by
  have number : headers.text? statusHeader = some (Nat.repr status.code.number) := by
    rw [Headers.text?_eq, states.number, List.head?_cons, Option.bind_some, visible?_repr_number]
  have message : ((headers.text? messageHeader).bind Http.Percent.text?).getD "" =
      status.message := by
    rw [Headers.text?_eq, states.message]
    by_cases silent : status.message.isEmpty = true
    · rw [if_pos silent]
      exact (String.isEmpty_iff.mp silent).symm
    · obtain ⟨shown, seen, read⟩ := Http.Percent.exists_visible?_encode status.message
      rw [if_neg silent, List.head?_cons, Option.bind_some, seen, Option.bind_some, read,
        Option.getD_some]
  rw [Rpc.statedStatus?, number, Option.map_some, Code.ofText_repr_number, message]

theorem States.insert (states : States headers status) {name : String} (value : Bytes)
    (notNumber : statusHeader ≠ name) (notMessage : messageHeader ≠ name) :
    States (headers.insert name value) status where
  number := by rw [Headers.values_insert, if_neg notNumber, states.number]
  message := by rw [Headers.values_insert, if_neg notMessage, states.message]

theorem states_statusFields (status : Status) : States ⟨statusFields status⟩ status := by
  by_cases silent : status.message.isEmpty = true
  · constructor
    · rw [statusFields, if_pos silent]
      rfl
    · rw [statusFields, if_pos silent, if_pos silent]
      rfl
  · constructor
    · rw [statusFields, if_neg silent]
      rfl
    · rw [statusFields, if_neg silent, if_neg silent]
      rfl

theorem states_ending (status : Status) : States (ending status).headers status := by
  obtain ⟨number, message⟩ := states_statusFields status
  exact ⟨number, message⟩

end Rpc

/-! ### Failures -/

/-- An answer that tells the caller that what was asked for was not done. -/
def Http.Response.Fails (framing : Framing) (response : Http.Response) : Prop :=
  400 ≤ response.status ∨
    framing = .call ∧ ∃ status, Rpc.endedWith? response = some status ∧ status.code ≠ .ok

theorem Http.Response.fails_document_iff (response : Http.Response) :
    response.Fails .document ↔ 400 ≤ response.status := by
  constructor
  · rintro (refused | ⟨other, _ended⟩)
    · exact refused
    · cases other
  · exact Or.inl

theorem Rpc.States.endedWith? {response : Http.Response} {status : Status}
    (states : States response.headers status) : Rpc.endedWith? response = some status := by
  rw [Rpc.endedWith?, states.statedStatus?, Option.some_or]

theorem Rpc.States.fails {response : Http.Response} {status : Status}
    (states : States response.headers status) (bad : status.code ≠ .ok) :
    response.Fails .call :=
  .inr ⟨rfl, status, states.endedWith?, bad⟩

theorem Framing.fails_rejection (framing : Framing) {status : Nat} {code : Rpc.Code}
    (message : String) (refused : 400 ≤ status) (bad : code ≠ .ok) :
    (framing.rejection status code message).Fails framing := by
  cases framing with
  | document => exact .inl refused
  | call => exact (Rpc.states_ending ⟨code, message⟩).fails bad

theorem Framing.fails_reject (framing : Framing) (error : SealError) :
    (framing.reject error).Fails framing := by
  cases error <;> exact framing.fails_rejection _ (by decide) (by decide)

theorem ServiceError.refused (error : ServiceError) : 400 ≤ error.status := by
  cases error <;> exact Nat.le_of_ble_eq_true rfl

theorem ServiceError.code_ne_ok (error : ServiceError) : error.rpcStatus.code ≠ .ok := by
  cases error <;> exact nofun

/-! ### Bodies -/

/-- The body as the caller takes it, unpacked where the headers say that it is packed. -/
def Http.Response.plainBody? (response : Http.Response) : Option Bytes :=
  if Compression.isPacked response.headers then Gzip.gunzip? response.body
  else some response.body

theorem Compression.isPacked_congr {left right : Headers}
    (same : left.values HeaderName.contentEncoding = right.values HeaderName.contentEncoding) :
    isPacked left = isPacked right := by
  rw [isPacked, isPacked, Headers.text?_congr same]

theorem Compression.not_isPacked {headers : Headers}
    (plain : headers.values HeaderName.contentEncoding = []) : isPacked headers = false := by
  rw [isPacked, Headers.text?_eq_none plain]

theorem Http.Response.plainBody?_of_plain {response : Http.Response}
    (plain : response.headers.values HeaderName.contentEncoding = []) :
    response.plainBody? = some response.body := by
  rw [plainBody?, Compression.not_isPacked plain, if_neg (by decide)]

theorem Compression.plainBody?_pack (parcel : Parcel)
    (plain : parcel.headers.values HeaderName.contentEncoding = []) (response : Http.Response)
    (headers : response.headers = (pack parcel).headers)
    (body : response.body = (pack parcel).body) : response.plainBody? = some parcel.body := by
  unfold Http.Response.plainBody?
  rw [headers, body]
  unfold pack
  by_cases packs : isCompressible (parcel.headers.text? HeaderName.contentType) = true
  · simp only [if_pos packs]
    rw [isPacked_insert, if_pos rfl]
    exact Gzip.gunzip?_gzip parcel.body
  · rw [if_neg packs, not_isPacked plain, if_neg (by decide)]

namespace Gateway

variable (secret : Bytes) (key : Option Crypto.Rsa.PrivateKey) (trusted : TrustedSubnet)

theorem plainBody?_sealResponse (packed : Bool) {response : Http.Response}
    (plain : response.headers.values HeaderName.contentEncoding = []) :
    ((Gateway.new secret key trusted).sealResponse packed response).plainBody? =
      some response.body := by
  have signed : (Signature.sign secret ⟨response.headers, response.body⟩).headers.values
      HeaderName.contentEncoding = [] :=
    (Signature.values_sign secret _ _ (by decide)).trans plain
  have body := Signature.body_sign secret ⟨response.headers, response.body⟩
  rw [sealResponse_eq]
  cases packed with
  | true => exact (Compression.plainBody?_pack _ signed _ rfl rfl).trans (congrArg some body)
  | false => exact (Http.Response.plainBody?_of_plain signed).trans (congrArg some body)

end Gateway

theorem Http.Journal.headers_noted (call : Bool) (trace : String) (response : Response) :
    (noted call trace response).headers =
      response.headers.insert traceHeader (Bytes.ofText trace) := by
  cases call <;> rfl

theorem Http.Journal.body_noted (call : Bool) (trace : String) (response : Response) :
    (noted call trace response).body = response.body := by
  cases call <;> rfl

theorem Http.Endpoint.values_finish (route : Route) (method : String) (response : Response)
    {name : String} (notAllow : name ≠ "allow") (notLength : name ≠ HeaderName.contentLength) :
    (finish route method response).headers.values name = response.headers.values name := by
  simp only [finish]
  split <;> split <;> simp only [Headers.values_insert, if_neg notAllow, if_neg notLength]

theorem Http.Endpoint.plainBody?_finish (route : Route) {method : String} (response : Response)
    (posted : method = "POST") :
    (finish route method response).plainBody? = response.plainBody? := by
  have coding := values_finish route method response
    (show HeaderName.contentEncoding ≠ "allow" by decide) (by decide)
  have body : (finish route method response).body = response.body := by
    subst posted
    rfl
  rw [Response.plainBody?, Response.plainBody?, Compression.isPacked_congr coding, body]

/-! ### The way of a request -/

namespace Gateway

theorem received?_same {gateway : Gateway} {request passed : Http.Request}
    (received : gateway.received? request = some passed) :
    passed.target = request.target ∧ passed.method = request.method := by
  unfold received? at received
  split at received
  · cases received
  · split at received
    · cases received
    · split at received
      · cases received
      · cases received
        exact ⟨rfl, rfl⟩

/-- A request that does not get through is told so, and the session stays as it is. -/
theorem around_run_none {gateway : Gateway} {request : Http.Request}
    (turnedAway : gateway.received? request = none) (framing : Framing) (trace : String)
    (inner : Http.Handler σ) (session : Session σ) :
    ∃ response, (gateway.around framing trace inner request).run session = (response, session) ∧
      response.Fails framing := by
  unfold received? at turnedAway
  unfold around admitting
  cases admitted : gateway.trusted.check request.headers with
  | error error => exact ⟨_, rfl, framing.fails_reject error⟩
  | ok done =>
    simp only [admitted] at turnedAway
    unfold opening
    by_cases long : longestRequest < request.body.length
    · simp only [if_pos long]
      exact ⟨_, rfl, framing.fails_rejection _ (by decide) (by decide)⟩
    · simp only [if_neg long] at turnedAway ⊢
      cases opened : gateway.inbound.unwrap ⟨request.headers, request.body⟩ with
      | mk fault parcel =>
        rw [opened] at turnedAway
        cases fault with
        | some error => exact ⟨_, rfl, framing.fails_reject error⟩
        | none => cases turnedAway

end Gateway

namespace Application

/-- What answers a request behind the gateway. -/
def inner (application : Application σ) (framing : Framing) (target : Http.Target) :
    Http.Handler σ :=
  match framing with
  | .call => Rpc.handle application.service
  | .document =>
    match Http.Route.ofPath? target.path with
    | none => Http.Endpoint.missing
    | some route => Http.Endpoint.handle application.service route

/-- What becomes of an answer in front of the gateway. -/
def finished (framing : Framing) (passed : Http.Request) (response : Http.Response) :
    Http.Response :=
  match framing with
  | .call => response
  | .document =>
    match Http.Route.ofPath? passed.target.path with
    | none => response
    | some route => Http.Endpoint.finish route passed.method response

theorem answer_run (application : Application σ) (framing : Framing) (trace : String)
    (request : Http.Request) (session : Session σ) :
    (application.answer framing trace request).run session =
      match (application.gateway.around framing trace
        (application.inner framing request.target) request).run session with
      | (response, after) => (finished framing request response, after) := by
  cases framing with
  | call => rfl
  | document =>
    simp only [answer, document, inner, finished]
    cases Http.Route.ofPath? request.target.path with
    | none => rfl
    | some route => rfl

theorem status_finished (framing : Framing) (passed : Http.Request) (response : Http.Response) :
    (finished framing passed response).status = response.status := by
  cases framing with
  | call => rfl
  | document =>
    simp only [finished]
    split <;> rfl

theorem Fails.finished {framing : Framing} {response : Http.Response}
    (fails : response.Fails framing) (passed : Http.Request) :
    (finished framing passed response).Fails framing := by
  cases framing with
  | call => exact fails
  | document =>
    rw [Http.Response.fails_document_iff] at fails ⊢
    rwa [status_finished]

/-- A request is turned away, which is a failure and changes nothing, or it is answered by the
inner handler. -/
theorem answer_cases (application : Application σ) (framing : Framing) (trace : String)
    (request : Http.Request) (session : Session σ) :
    (application.gateway.received? request = none ∧ ∃ response,
      (application.answer framing trace request).run session = (response, session) ∧
        response.Fails framing) ∨
    ∃ passed response after events, application.gateway.received? request = some passed ∧
      (application.inner framing passed.target passed).run
        (session.log [Http.Journal.requestEvent passed]) = (response, after) ∧
      (application.answer framing trace request).run session =
        (finished framing passed
          (application.gateway.sent framing trace request passed response), after.log events) := by
  rw [answer_run]
  cases received : application.gateway.received? request with
  | none =>
    obtain ⟨response, turnedAway, fails⟩ := Gateway.around_run_none received framing trace
      (application.inner framing request.target) session
    rw [turnedAway]
    exact .inl ⟨rfl, _, rfl, Fails.finished fails request⟩
  | some passed =>
    obtain ⟨target, method⟩ := Gateway.received?_same received
    cases answered : (application.inner framing request.target passed).run
        (session.log [Http.Journal.requestEvent passed]) with
    | mk response after =>
      obtain ⟨events, around⟩ := Gateway.around_run received framing trace answered
      rw [around]
      refine .inr ⟨passed, response, after, events, rfl, ?_, ?_⟩
      · rw [target, answered]
      · simp only [finished, target, method]

end Application

/-! ### Failures on their way -/

section Sent

variable (secret : Bytes) (key : Option Crypto.Rsa.PrivateKey) (trusted : TrustedSubnet)
  (trace : String) (request passed : Http.Request)

/-- The journal keeps what a call ended with. -/
theorem Rpc.endedWith?_noted {response : Http.Response} {status : Status}
    (states : States response.headers status) (call : Bool) :
    endedWith? (Http.Journal.noted call trace response) = some status := by
  apply States.endedWith?
  rw [Http.Journal.headers_noted]
  exact states.insert _ (by decide) (by decide)

/-- An answer to what was not sent as a call loses its trailers and so its status. -/
theorem Rpc.endedWith?_replying (call : Bool) (message : Bytes) :
    endedWith? (Http.Journal.noted call trace (replying message)) =
      if call then some ⟨.ok, ""⟩ else none := by
  have silent : statedStatus? (Http.Journal.noted call trace (replying message)).headers =
      none := by
    have absent : (Http.Journal.noted call trace (replying message)).headers.values
        statusHeader = [] := by
      rw [Http.Journal.headers_noted, Headers.values_insert]
      rfl
    rw [statedStatus?, Headers.text?_eq_none absent]
    rfl
  rw [endedWith?, silent, Option.none_or]
  cases call with
  | true => exact (states_statusFields ⟨.ok, ""⟩).statedStatus?
  | false => rfl

theorem Application.fails_sent_document_iff (response : Http.Response) :
    (finished .document passed
      ((Gateway.new secret key trusted).sent .document trace request passed response)).Fails
        .document ↔ 400 ≤ response.status := by
  rw [Http.Response.fails_document_iff, status_finished, Gateway.status_sent]

theorem Application.not_fails_sent_replying (gateway : Gateway) (message : Bytes) :
    ¬ (finished .call passed
      (gateway.sent .call trace request passed (Rpc.replying message))).Fails .call := by
  rintro (refused | ⟨_call, status, ended, bad⟩)
  · have success : (finished .call passed
        (gateway.sent .call trace request passed (Rpc.replying message))).status = 200 := by
      simp only [finished, Gateway.sent, Http.Journal.noted]
      split <;> rfl
    rw [success] at refused
    exact absurd refused (by decide)
  · change Rpc.endedWith? (Http.Journal.noted _ trace (Rpc.replying message)) = _ at ended
    rw [Rpc.endedWith?_replying] at ended
    split at ended
    · cases ended
      exact bad rfl
    · cases ended

/-- A plain body comes back as it is. -/
theorem Application.plainBody?_sent {response : Http.Response}
    (plain : response.headers.values HeaderName.contentEncoding = [])
    (posted : passed.method = "POST") :
    (finished .document passed
      ((Gateway.new secret key trusted).sent .document trace request passed
        response)).plainBody? = some response.body := by
  have noted : (Http.Journal.noted (Http.Journal.isCall passed.headers) trace
      response).headers.values HeaderName.contentEncoding = [] := by
    rw [Http.Journal.headers_noted, Headers.values_insert, if_neg (by decide), plain]
  have sent : ((Gateway.new secret key trusted).sent .document trace request passed
      response).plainBody? = some response.body := by
    rw [← Http.Journal.body_noted (Http.Journal.isCall passed.headers) trace response]
    exact Gateway.plainBody?_sealResponse secret key trusted _ noted
  simp only [finished]
  split
  · exact sent
  · rw [Http.Endpoint.plainBody?_finish _ _ posted, sent]

end Sent

/-! ### Documents -/

theorem Http.Route.allows_of_posts {route : Route} (posts : route.isRead = false)
    (method : String) : route.allows method = (method == "POST") := by
  rw [allows, posts, if_neg (by decide)]

namespace Http.Endpoint

variable {α : Type}

/-- A request posts a document that can be taken, or it does not. -/
theorem document?_cases (read? : Bytes → Option α) (request : Request) :
    (request.method = "POST" ∧ ∃ document, document? read? request = some document) ∨
      (request.method = "POST" → document? read? request = none) := by
  by_cases posted : request.method = "POST"
  · cases read : document? read? request with
    | none => exact .inr fun _posted => rfl
    | some document => exact .inl ⟨posted, document, rfl⟩
  · exact .inr fun stated => absurd stated posted

section Taking

variable (service : Service σ) (route : Route) {read? : Bytes → Option α}
  {work : α → Serving σ Response}
  (plain : route.decode = .ok route) (posts : route.isRead = false)
  (answers : ∀ request, answer service request route = withDocument read? request work)

include plain posts answers

/-- A route that takes documents answers what is worked out from the document. -/
theorem handle_read {request : Request} (posted : request.method = "POST") {document : α}
    (read : document? read? request = some document) :
    handle service route request = respond (work document) := by
  have allows : route.allows request.method = true := by
    rw [Route.allows_of_posts posts, posted]
    rfl
  unfold document? at read
  split at read
  · cases read
  · rename_i short
    unfold handle
    rw [if_pos allows, plain]
    simp only [answers, withDocument, if_neg short, read]

/-- Without a document that it takes, it tells the caller so. -/
theorem handle_unread {request : Request}
    (unread : request.method = "POST" → document? read? request = none) (session : Session σ) :
    ∃ response, (handle service route request).run session = (response, session) ∧
      400 ≤ response.status := by
  unfold handle
  rw [Route.allows_of_posts posts, plain]
  by_cases posted : request.method = "POST"
  · have missing := unread posted
    rw [if_pos (beq_iff_eq.mpr posted)]
    simp only [answers, withDocument]
    unfold document? at missing
    by_cases long : longestDocument < request.body.length
    · rw [if_pos long]
      exact ⟨_, rfl, by decide⟩
    · rw [if_neg long] at missing ⊢
      rw [missing]
      exact ⟨_, respond_error rfl, ServiceError.refused malformed⟩
  · rw [if_neg (by simpa using posted)]
    exact ⟨_, rfl, by decide⟩

end Taking

end Http.Endpoint

/-! ### Calls -/

namespace Rpc

variable {α : Type} {service : Service σ} {session after : Session σ}

/-- The call that a request makes, if its method is known and its message can be read. -/
def called? (request : Http.Request) : Option Call :=
  match Method.ofPath? request.target.path with
  | none => none
  | some method =>
    match unsupportedEncoding? request.headers with
    | some _ => none
    | none => (Frame.call method request.body).toOption

def Call.method : Call → Method
  | .updateMetric _ => .updateMetric
  | .updateMetrics _ => .updateMetrics
  | .getMetric _ => .getMetric
  | .getMetrics => .getMetrics
  | .ping => .ping

theorem method_of_call? {method : Method} {message : Bytes} {call : Call}
    (read : method.call? message = some call) : call.method = method := by
  cases method with
  | updateMetric =>
    obtain ⟨envelope, _found, rfl⟩ := Option.map_eq_some_iff.mp read
    rfl
  | updateMetrics =>
    obtain ⟨envelopes, _found, rfl⟩ := Option.map_eq_some_iff.mp read
    rfl
  | getMetric =>
    obtain ⟨query, _found, rfl⟩ := Option.map_eq_some_iff.mp read
    rfl
  | getMetrics =>
    simp only [Method.call?] at read
    split at read
    · cases read
      rfl
    · cases read
  | ping =>
    simp only [Method.call?] at read
    split at read
    · cases read
      rfl
    · cases read

theorem method_of_frame {method : Method} {stream : Bytes} {call : Call}
    (framed : Frame.call method stream = .ok call) : call.method = method := by
  unfold Frame.call at framed
  cases found : Frame.next? stream with
  | error fault =>
    rw [found] at framed
    cases framed
  | ok next =>
    rw [found] at framed
    cases next with
    | none => cases framed
    | some message =>
      simp only [bind, Except.bind] at framed
      split at framed
      · cases framed
      · rename_i made read
        split at framed
        · cases framed
        · cases framed
          exact method_of_call? read

/-- A call was made by its own method, in a frame that can be read. -/
theorem framed_of_called? {request : Http.Request} {call : Call}
    (read : called? request = some call) :
    Method.ofPath? request.target.path = some call.method ∧
      unsupportedEncoding? request.headers = none ∧
      Frame.call call.method request.body = .ok call := by
  unfold called? at read
  cases method : Method.ofPath? request.target.path with
  | none =>
    simp only [method] at read
    cases read
  | some found =>
    simp only [method] at read
    cases encoding : unsupportedEncoding? request.headers with
    | some status =>
      simp only [encoding] at read
      cases read
    | none =>
      simp only [encoding] at read
      cases framed : Frame.call found request.body with
      | error status =>
        rw [framed] at read
        cases read
      | ok made =>
        rw [framed] at read
        cases read
        obtain rfl := method_of_frame framed
        exact ⟨rfl, rfl, framed⟩

theorem method_of_called? {request : Http.Request} {call : Call}
    (read : called? request = some call) :
    Method.ofPath? request.target.path = some call.method := (framed_of_called? read).1

theorem accepted_eq (request : Http.Request) :
    accepted request =
      match called? request with
      | none => []
      | some call => call.accepted := by
  unfold accepted called?
  cases Method.ofPath? request.target.path with
  | none => rfl
  | some method =>
    simp only
    cases unsupportedEncoding? request.headers with
    | some status => rfl
    | none =>
      simp only
      cases Frame.call method request.body with
      | ok call => rfl
      | error status => rfl

theorem Frame.code_ne_ok_of_next? {stream : Bytes} {status : Status}
    (refused : next? stream = .error status) : status.code ≠ .ok := by
  unfold next? at refused
  split at refused
  · cases refused
  · simp only at refused
    split at refused
    · cases refused
      decide
    · split at refused
      · cases refused
        decide
      · split at refused
        · cases refused
          decide
        · split at refused
          · cases refused
          · split at refused
            · cases refused
            · cases refused
              decide

theorem Frame.code_ne_ok_of_drain {method : Method} {steps : Nat} {stream : Bytes}
    {status : Status} (refused : drain method steps stream = .error status) :
    status.code ≠ .ok := by
  induction steps generalizing stream with
  | zero => cases refused
  | succ steps ih =>
    rw [drain] at refused
    cases found : next? stream with
    | error fault =>
      rw [found] at refused
      cases refused
      exact code_ne_ok_of_next? found
    | ok next =>
      rw [found] at refused
      cases next with
      | none => cases refused
      | some message =>
        simp only [bind, Except.bind] at refused
        split at refused
        · cases refused
          decide
        · exact ih refused

theorem Frame.code_ne_ok_of_call {method : Method} {stream : Bytes} {status : Status}
    (refused : Frame.call method stream = .error status) : status.code ≠ .ok := by
  unfold Frame.call at refused
  cases found : next? stream with
  | error fault =>
    rw [found] at refused
    cases refused
    exact code_ne_ok_of_next? found
  | ok next =>
    rw [found] at refused
    cases next with
    | none =>
      cases refused
      exact nofun
    | some message =>
      simp only [bind, Except.bind] at refused
      split at refused
      · cases refused
        exact nofun
      · split at refused
        · rename_i fault drained
          cases refused
          exact code_ne_ok_of_drain drained
        · cases refused

/-- A request that makes no call is told so. -/
theorem handle_none {request : Http.Request} (unread : called? request = none) :
    ∃ response status, (handle service request).run session = (response, session) ∧
      States response.headers status ∧ status.code ≠ .ok := by
  unfold called? at unread
  unfold handle
  cases method : Method.ofPath? request.target.path with
  | none => exact ⟨_, _, rfl, states_ending _, nofun⟩
  | some method_ =>
    simp only [method] at unread
    cases encoding : unsupportedEncoding? request.headers with
    | some status =>
      have bad : status.code ≠ .ok := by
        unfold unsupportedEncoding? at encoding
        split at encoding
        · cases encoding
        · split at encoding
          · cases encoding
          · cases encoding
            exact nofun
      exact ⟨_, status, rfl, (states_ending status).insert _ (by decide) (by decide), bad⟩
    | none =>
      simp only [encoding] at unread
      simp only
      cases framed : Frame.call method_ request.body with
      | error status =>
        exact ⟨_, status, rfl, states_ending status, Frame.code_ne_ok_of_call framed⟩
      | ok call =>
        rw [framed] at unread
        cases unread

/-- A call that was made is answered by what comes of it. -/
theorem handle_some {request : Http.Request} {call : Call} (read : called? request = some call) :
    (handle service request).run session =
      match (perform service call).run session with
      | (.ok reply, after) => (replying (Frame.write reply.toWire), after)
      | (.error status, after) => (ending status, after) := by
  obtain ⟨method, encoding, framed⟩ := framed_of_called? read
  unfold handle
  simp only [method, encoding, framed, StateT.run_bind]
  cases performed : (perform service call).run session with
  | mk result after =>
    rw [show StateT.run (perform service call).run session = _ from performed]
    cases result with
    | ok reply => rfl
    | error status => rfl

theorem serve_run (work : Serving σ α) :
    (serve work).run session =
      (((work.run session).1).mapError ServiceError.rpcStatus, (work.run session).2) :=
  rfl

/-- A call that fails does not end as one that succeeds. -/
theorem code_ne_ok_of_perform {call : Call} {status : Status}
    (refused : (perform service call).run session = (.error status, after)) :
    status.code ≠ .ok := by
  have served : ∀ {β : Type} (work : Serving σ β) (form : β → Reply),
      (serve work >>= fun answer => pure (form answer)).run session =
        (.error status, after) → status.code ≠ .ok := by
    intro β work form failed
    cases worked : work.run session with
    | mk result next =>
      have run : (serve work).run session = _ := serve_run work
      rw [worked] at run
      cases result with
      | ok answer =>
        rw [run_bind_ok _ run] at failed
        cases failed
      | error error =>
        rw [run_bind_error _ run] at failed
        cases failed
        exact error.code_ne_ok
  cases call with
  | updateMetric envelope =>
    cases envelope with
    | none =>
      cases refused
      exact nofun
    | some envelope => exact served _ Reply.metric refused
  | updateMetrics envelopes => exact served _ (fun _done => Reply.nothing) refused
  | getMetric query => exact served _ (fun metric => Reply.metric (.ofMetric metric)) refused
  | getMetrics => exact served _ Reply.names refused
  | ping => exact served _ (fun _done => Reply.nothing) refused

end Rpc

end Telemetry
